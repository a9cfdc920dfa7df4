/-! # Names of pictures

One name and its picture in each line, in groups by the first letter of the name. -/

namespace FunctionMetrics.Terminal

private def picturesOther : List String := [
    "+1 👍\n-1 👎\n100 💯\n1234 🔢\n1st_place_medal 🥇\n2nd_place_medal 🥈\n3rd_place_medal 🥉\n8ball 🎱\n__1 👎",
    "åland_islands 🇦🇽"]

private def picturesA : List String := [
    "a 🅰\na_button_(blood_type) 🅰\nab 🆎\nab_button_(blood_type) 🆎\nabacus 🧮\nabc 🔤\nabcd 🔡\naccept 🉑",
    "adhesive_bandage 🩹\nadmission_tickets 🎟\nadult 🧑\nadult_dark_skin_tone 🧑🏿",
    "adult_light_skin_tone 🧑🏻\nadult_medium-dark_skin_tone 🧑🏾\nadult_medium-light_skin_tone 🧑🏼",
    "adult_medium_skin_tone 🧑🏽\naerial_tramway 🚡\nafghanistan 🇦🇫\nairplane ✈\nairplane_arrival 🛬",
    "airplane_arriving 🛬\nairplane_departure 🛫\nalarm_clock ⏰\nalbania 🇦🇱\nalembic ⚗\nalgeria 🇩🇿",
    "alien 👽\nalien_monster 👾\nambulance 🚑\namerican_football 🏈\namerican_samoa 🇦🇸\namphora 🏺\nanchor ⚓",
    "andorra 🇦🇩\nangel 👼\nanger 💢\nanger_symbol 💢\nangola 🇦🇴\nangry 😠\nangry_face 😠",
    "angry_face_with_horns 👿\nanguilla 🇦🇮\nanguished 😧\nanguished_face 😧\nant 🐜\nantarctica 🇦🇶",
    "antenna_bars 📶\nantigua_&_barbuda 🇦🇬\nanxious_face_with_sweat 😰\napple 🍎\naquarius ♒\nargentina 🇦🇷",
    "aries ♈\narmenia 🇦🇲\narrow_backward ◀\narrow_double_down ⏬\narrow_double_up ⏫\narrow_down ⬇",
    "arrow_down_small 🔽\narrow_forward ▶\narrow_heading_down ⤵\narrow_heading_up ⤴\narrow_left ⬅",
    "arrow_lower_left ↙\narrow_lower_right ↘\narrow_right ➡\narrow_right_hook ↪\narrow_up ⬆",
    "arrow_up_down ↕\narrow_up_small 🔼\narrow_upper_left ↖\narrow_upper_right ↗\narrows_clockwise 🔃",
    "arrows_counterclockwise 🔄\nart 🎨\narticulated_lorry 🚛\nartist_palette 🎨\naruba 🇦🇼",
    "ascension_island 🇦🇨\nastonished 😲\nastonished_face 😲\nathletic_shoe 👟\natm 🏧\natm_sign 🏧",
    "atom_symbol ⚛\naustralia 🇦🇺\naustria 🇦🇹\nauto_rickshaw 🛺\nautomobile 🚗\navocado 🥑\naxe 🪓",
    "azerbaijan 🇦🇿"]

private def picturesB : List String := [
    "b 🅱\nb_button_(blood_type) 🅱\nbaby 👶\nbaby_angel 👼\nbaby_angel_dark_skin_tone 👼🏿",
    "baby_angel_light_skin_tone 👼🏻\nbaby_angel_medium-dark_skin_tone 👼🏾",
    "baby_angel_medium-light_skin_tone 👼🏼\nbaby_angel_medium_skin_tone 👼🏽\nbaby_bottle 🍼\nbaby_chick 🐤",
    "baby_dark_skin_tone 👶🏿\nbaby_light_skin_tone 👶🏻\nbaby_medium-dark_skin_tone 👶🏾",
    "baby_medium-light_skin_tone 👶🏼\nbaby_medium_skin_tone 👶🏽\nbaby_symbol 🚼\nback 🔙\nback_arrow 🔙",
    "backhand_index_pointing_down 👇\nbackhand_index_pointing_down_dark_skin_tone 👇🏿",
    "backhand_index_pointing_down_light_skin_tone 👇🏻",
    "backhand_index_pointing_down_medium-dark_skin_tone 👇🏾",
    "backhand_index_pointing_down_medium-light_skin_tone 👇🏼",
    "backhand_index_pointing_down_medium_skin_tone 👇🏽\nbackhand_index_pointing_left 👈",
    "backhand_index_pointing_left_dark_skin_tone 👈🏿\nbackhand_index_pointing_left_light_skin_tone 👈🏻",
    "backhand_index_pointing_left_medium-dark_skin_tone 👈🏾",
    "backhand_index_pointing_left_medium-light_skin_tone 👈🏼",
    "backhand_index_pointing_left_medium_skin_tone 👈🏽\nbackhand_index_pointing_right 👉",
    "backhand_index_pointing_right_dark_skin_tone 👉🏿\nbackhand_index_pointing_right_light_skin_tone 👉🏻",
    "backhand_index_pointing_right_medium-dark_skin_tone 👉🏾",
    "backhand_index_pointing_right_medium-light_skin_tone 👉🏼",
    "backhand_index_pointing_right_medium_skin_tone 👉🏽\nbackhand_index_pointing_up 👆",
    "backhand_index_pointing_up_dark_skin_tone 👆🏿\nbackhand_index_pointing_up_light_skin_tone 👆🏻",
    "backhand_index_pointing_up_medium-dark_skin_tone 👆🏾",
    "backhand_index_pointing_up_medium-light_skin_tone 👆🏼",
    "backhand_index_pointing_up_medium_skin_tone 👆🏽\nbacon 🥓\nbadger 🦡\nbadminton 🏸",
    "badminton_racquet_and_shuttlecock 🏸\nbagel 🥯\nbaggage_claim 🛄\nbaguette_bread 🥖\nbahamas 🇧🇸",
    "bahrain 🇧🇭\nbalance_scale ⚖\nbald 🦲\nbald_man 👨‍🦲\nbald_woman 👩‍🦲\nballet_shoes 🩰\nballoon 🎈",
    "ballot_box_with_ballot 🗳\nballot_box_with_check ☑\nbamboo 🎍\nbanana 🍌\nbangbang ‼\nbangladesh 🇧🇩",
    "banjo 🪕\nbank 🏦\nbar_chart 📊\nbarbados 🇧🇧\nbarber 💈\nbarber_pole 💈\nbaseball ⚾\nbasket 🧺",
    "basketball 🏀\nbat 🦇\nbath 🛀\nbathtub 🛁\nbattery 🔋\nbeach_with_umbrella 🏖",
    "beaming_face_with_smiling_eyes 😁\nbear 🐻\nbear_face 🐻\nbearded_person 🧔",
    "bearded_person_dark_skin_tone 🧔🏿\nbearded_person_light_skin_tone 🧔🏻",
    "bearded_person_medium-dark_skin_tone 🧔🏾\nbearded_person_medium-light_skin_tone 🧔🏼",
    "bearded_person_medium_skin_tone 🧔🏽\nbeating_heart 💓\nbed 🛏\nbee 🐝\nbeer 🍺\nbeer_mug 🍺\nbeers 🍻",
    "beetle 🐞\nbeginner 🔰\nbelarus 🇧🇾\nbelgium 🇧🇪\nbelize 🇧🇿\nbell 🔔\nbell_with_slash 🔕\nbellhop_bell 🛎",
    "benin 🇧🇯\nbento 🍱\nbento_box 🍱\nbermuda 🇧🇲\nbeverage_box 🧃\nbhutan 🇧🇹\nbicycle 🚲\nbicyclist 🚴",
    "bike 🚲\nbikini 👙\nbilled_cap 🧢\nbiohazard ☣\nbiohazard_sign ☣\nbird 🐦\nbirthday 🎂\nbirthday_cake 🎂",
    "black_circle ⚫\nblack_circle_for_record ⏺\nblack_flag 🏴\nblack_heart 🖤\nblack_joker 🃏",
    "black_large_square ⬛\nblack_left__pointing_double_triangle_with_vertical_bar ⏮",
    "black_medium-small_square ◾\nblack_medium_small_square ◾\nblack_medium_square ◼\nblack_nib ✒",
    "black_right__pointing_double_triangle_with_vertical_bar ⏭",
    "black_right__pointing_triangle_with_double_vertical_bar ⏯\nblack_small_square ▪",
    "black_square_button 🔲\nblack_square_for_stop ⏹\nblond-haired_man 👱‍♂️",
    "blond-haired_man_dark_skin_tone 👱🏿‍♂️\nblond-haired_man_light_skin_tone 👱🏻‍♂️",
    "blond-haired_man_medium-dark_skin_tone 👱🏾‍♂️\nblond-haired_man_medium-light_skin_tone 👱🏼‍♂️",
    "blond-haired_man_medium_skin_tone 👱🏽‍♂️\nblond-haired_person 👱",
    "blond-haired_person_dark_skin_tone 👱🏿\nblond-haired_person_light_skin_tone 👱🏻",
    "blond-haired_person_medium-dark_skin_tone 👱🏾\nblond-haired_person_medium-light_skin_tone 👱🏼",
    "blond-haired_person_medium_skin_tone 👱🏽\nblond-haired_woman 👱‍♀️",
    "blond-haired_woman_dark_skin_tone 👱🏿‍♀️\nblond-haired_woman_light_skin_tone 👱🏻‍♀️",
    "blond-haired_woman_medium-dark_skin_tone 👱🏾‍♀️\nblond-haired_woman_medium-light_skin_tone 👱🏼‍♀️",
    "blond-haired_woman_medium_skin_tone 👱🏽‍♀️\nblossom 🌼\nblowfish 🐡\nblue_book 📘\nblue_car 🚙",
    "blue_circle 🔵\nblue_heart 💙\nblue_square 🟦\nblush 😊\nboar 🐗\nboat ⛵\nbolivia 🇧🇴\nbomb 💣\nbone 🦴",
    "book 📖\nbookmark 🔖\nbookmark_tabs 📑\nbooks 📚\nboom 💥\nboot 👢\nbosnia_&_herzegovina 🇧🇦\nbotswana 🇧🇼",
    "bottle_with_popping_cork 🍾\nbouquet 💐\nbouvet_island 🇧🇻\nbow 🙇\nbow_and_arrow 🏹\nbowl_with_spoon 🥣",
    "bowling 🎳\nboxing_glove 🥊\nboy 👦\nboy_dark_skin_tone 👦🏿\nboy_light_skin_tone 👦🏻",
    "boy_medium-dark_skin_tone 👦🏾\nboy_medium-light_skin_tone 👦🏼\nboy_medium_skin_tone 👦🏽\nbrain 🧠",
    "brazil 🇧🇷\nbread 🍞\nbreast-feeding 🤱\nbreast-feeding_dark_skin_tone 🤱🏿",
    "breast-feeding_light_skin_tone 🤱🏻\nbreast-feeding_medium-dark_skin_tone 🤱🏾",
    "breast-feeding_medium-light_skin_tone 🤱🏼\nbreast-feeding_medium_skin_tone 🤱🏽\nbrick 🧱",
    "bride_with_veil 👰\nbride_with_veil_dark_skin_tone 👰🏿\nbride_with_veil_light_skin_tone 👰🏻",
    "bride_with_veil_medium-dark_skin_tone 👰🏾\nbride_with_veil_medium-light_skin_tone 👰🏼",
    "bride_with_veil_medium_skin_tone 👰🏽\nbridge_at_night 🌉\nbriefcase 💼\nbriefs 🩲\nbright_button 🔆",
    "british_indian_ocean_territory 🇮🇴\nbritish_virgin_islands 🇻🇬\nbroccoli 🥦\nbroken_heart 💔\nbroom 🧹",
    "brown_circle 🟤\nbrown_heart 🤎\nbrown_square 🟫\nbrunei 🇧🇳\nbug 🐛\nbuilding_construction 🏗\nbulb 💡",
    "bulgaria 🇧🇬\nbullet_train 🚅\nbullettrain_front 🚅\nbullettrain_side 🚄\nburkina_faso 🇧🇫\nburrito 🌯",
    "burundi 🇧🇮\nbus 🚌\nbus_stop 🚏\nbusstop 🚏\nbust_in_silhouette 👤\nbusts_in_silhouette 👥\nbutter 🧈",
    "butterfly 🦋"]

private def picturesC : List String := [
    "cactus 🌵\ncake 🍰\ncalendar 📆\ncall_me_hand 🤙\ncall_me_hand_dark_skin_tone 🤙🏿",
    "call_me_hand_light_skin_tone 🤙🏻\ncall_me_hand_medium-dark_skin_tone 🤙🏾",
    "call_me_hand_medium-light_skin_tone 🤙🏼\ncall_me_hand_medium_skin_tone 🤙🏽\ncalling 📲\ncambodia 🇰🇭",
    "camel 🐫\ncamera 📷\ncamera_with_flash 📸\ncameroon 🇨🇲\ncamping 🏕\ncanada 🇨🇦\ncanary_islands 🇮🇨",
    "cancer ♋\ncandle 🕯\ncandy 🍬\ncanned_food 🥫\ncanoe 🛶\ncape_verde 🇨🇻\ncapital_abcd 🔠\ncapricorn ♑",
    "car 🚗\ncard_file_box 🗃\ncard_index 📇\ncard_index_dividers 🗂\ncaribbean_netherlands 🇧🇶",
    "carousel_horse 🎠\ncarp_streamer 🎏\ncarrot 🥕\ncastle 🏰\ncat 🐱\ncat2 🐈\ncat_face 🐱",
    "cat_face_with_tears_of_joy 😹\ncat_face_with_wry_smile 😼\ncayman_islands 🇰🇾\ncd 💿",
    "central_african_republic 🇨🇫\nceuta_&_melilla 🇪🇦\nchad 🇹🇩\nchains ⛓\nchair 🪑\nchart 💹",
    "chart_decreasing 📉\nchart_increasing 📈\nchart_increasing_with_yen 💹\nchart_with_downwards_trend 📉",
    "chart_with_upwards_trend 📈\ncheckered_flag 🏁\ncheese_wedge 🧀\nchequered_flag 🏁\ncherries 🍒",
    "cherry_blossom 🌸\nchess_pawn ♟\nchestnut 🌰\nchicken 🐔\nchild 🧒\nchild_dark_skin_tone 🧒🏿",
    "child_light_skin_tone 🧒🏻\nchild_medium-dark_skin_tone 🧒🏾\nchild_medium-light_skin_tone 🧒🏼",
    "child_medium_skin_tone 🧒🏽\nchildren_crossing 🚸\nchile 🇨🇱\nchina 🇨🇳\nchipmunk 🐿\nchocolate_bar 🍫",
    "chopsticks 🥢\nchristmas_island 🇨🇽\nchristmas_tree 🎄\nchurch ⛪\ncigarette 🚬\ncinema 🎦\ncircled_m Ⓜ",
    "circus_tent 🎪\ncity_sunrise 🌇\ncity_sunset 🌆\ncityscape 🏙\ncityscape_at_dusk 🌆\ncl 🆑\ncl_button 🆑",
    "clamp 🗜\nclap 👏\nclapper 🎬\nclapper_board 🎬\nclapping_hands 👏\nclapping_hands_dark_skin_tone 👏🏿",
    "clapping_hands_light_skin_tone 👏🏻\nclapping_hands_medium-dark_skin_tone 👏🏾",
    "clapping_hands_medium-light_skin_tone 👏🏼\nclapping_hands_medium_skin_tone 👏🏽\nclassical_building 🏛",
    "clinking_beer_mugs 🍻\nclinking_glasses 🥂\nclipboard 📋\nclipperton_island 🇨🇵\nclock1 🕐\nclock10 🕙",
    "clock1030 🕥\nclock11 🕚\nclock1130 🕦\nclock12 🕛\nclock1230 🕧\nclock130 🕜\nclock2 🕑\nclock230 🕝",
    "clock3 🕒\nclock330 🕞\nclock4 🕓\nclock430 🕟\nclock5 🕔\nclock530 🕠\nclock6 🕕\nclock630 🕡\nclock7 🕖",
    "clock730 🕢\nclock8 🕗\nclock830 🕣\nclock9 🕘\nclock930 🕤\nclockwise_vertical_arrows 🔃\nclosed_book 📕",
    "closed_lock_with_key 🔐\nclosed_mailbox_with_lowered_flag 📪\nclosed_mailbox_with_raised_flag 📫",
    "closed_umbrella 🌂\ncloud ☁\ncloud_with_lightning 🌩\ncloud_with_lightning_and_rain ⛈",
    "cloud_with_rain 🌧\ncloud_with_snow 🌨\ncloud_with_tornado 🌪\nclown_face 🤡\nclub_suit ♣\nclubs ♣",
    "clutch_bag 👝\ncoat 🧥\ncocktail 🍸\ncocktail_glass 🍸\ncoconut 🥥\ncocos_(keeling)_islands 🇨🇨",
    "coffee ☕\ncoffin ⚰\ncold_face 🥶\ncold_sweat 😰\ncollision 💥\ncolombia 🇨🇴\ncomet ☄\ncomoros 🇰🇲",
    "compass 🧭\ncompression 🗜\ncomputer 💻\ncomputer_disk 💽\ncomputer_mouse 🖱\nconfetti_ball 🎊",
    "confounded 😖\nconfounded_face 😖\nconfused 😕\nconfused_face 😕\ncongo_-_brazzaville 🇨🇬",
    "congo_-_kinshasa 🇨🇩\ncongratulations ㊗\nconstruction 🚧\nconstruction_worker 👷",
    "construction_worker_dark_skin_tone 👷🏿\nconstruction_worker_light_skin_tone 👷🏻",
    "construction_worker_medium-dark_skin_tone 👷🏾\nconstruction_worker_medium-light_skin_tone 👷🏼",
    "construction_worker_medium_skin_tone 👷🏽\ncontrol_knobs 🎛\nconvenience_store 🏪\ncook_islands 🇨🇰",
    "cooked_rice 🍚\ncookie 🍪\ncooking 🍳\ncool 🆒\ncool_button 🆒\ncop 👮\ncopyright ©\ncorn 🌽",
    "costa_rica 🇨🇷\ncouch_and_lamp 🛋\ncounterclockwise_arrows_button 🔄\ncouple 👫\ncouple_with_heart 💑",
    "couple_with_heart_man_man 👨‍❤️‍👨\ncouple_with_heart_woman_man 👩‍❤️‍👨",
    "couple_with_heart_woman_woman 👩‍❤️‍👩\ncouplekiss 💏\ncow 🐮\ncow2 🐄\ncow_face 🐮\ncowboy_hat_face 🤠",
    "crab 🦀\ncrayon 🖍\ncredit_card 💳\ncrescent_moon 🌙\ncricket 🦗\ncricket_bat_and_ball 🏏",
    "cricket_game 🏏\ncroatia 🇭🇷\ncrocodile 🐊\ncroissant 🥐\ncross_mark ❌\ncross_mark_button ❎",
    "crossed_fingers 🤞\ncrossed_fingers_dark_skin_tone 🤞🏿\ncrossed_fingers_light_skin_tone 🤞🏻",
    "crossed_fingers_medium-dark_skin_tone 🤞🏾\ncrossed_fingers_medium-light_skin_tone 🤞🏼",
    "crossed_fingers_medium_skin_tone 🤞🏽\ncrossed_flags 🎌\ncrossed_swords ⚔\ncrown 👑\ncry 😢",
    "crying_cat_face 😿\ncrying_face 😢\ncrystal_ball 🔮\ncuba 🇨🇺\ncucumber 🥒\ncup_with_straw 🥤\ncupcake 🧁",
    "cupid 💘\ncuraçao 🇨🇼\ncurling_stone 🥌\ncurly-haired_man 👨‍🦱\ncurly-haired_woman 👩‍🦱\ncurly_hair 🦱",
    "curly_loop ➰\ncurrency_exchange 💱\ncurry 🍛\ncurry_rice 🍛\ncustard 🍮\ncustoms 🛃\ncut_of_meat 🥩",
    "cyclone 🌀\ncyprus 🇨🇾\nczechia 🇨🇿\ncôte_d’ivoire 🇨🇮"]

private def picturesD : List String := [
    "dagger 🗡\ndagger_knife 🗡\ndancer 💃\ndancers 👯\ndango 🍡\ndark_skin_tone 🏿\ndark_sunglasses 🕶",
    "dart 🎯\ndash 💨\ndashing_away 💨\ndate 📅\ndeaf_person 🧏\ndeciduous_tree 🌳\ndeer 🦌\ndelivery_truck 🚚",
    "denmark 🇩🇰\ndepartment_store 🏬\nderelict_house 🏚\nderelict_house_building 🏚\ndesert 🏜",
    "desert_island 🏝\ndesktop_computer 🖥\ndetective 🕵\ndetective_dark_skin_tone 🕵🏿",
    "detective_light_skin_tone 🕵🏻\ndetective_medium-dark_skin_tone 🕵🏾",
    "detective_medium-light_skin_tone 🕵🏼\ndetective_medium_skin_tone 🕵🏽",
    "diamond_shape_with_a_dot_inside 💠\ndiamond_suit ♦\ndiamond_with_a_dot 💠\ndiamonds ♦",
    "diego_garcia 🇩🇬\ndim_button 🔅\ndirect_hit 🎯\ndisappointed 😞\ndisappointed_face 😞",
    "disappointed_relieved 😥\ndiving_mask 🤿\ndiya_lamp 🪔\ndizzy 💫\ndizzy_face 😵\ndjibouti 🇩🇯\ndna 🧬",
    "do_not_litter 🚯\ndog 🐶\ndog2 🐕\ndog_face 🐶\ndollar 💵\ndollar_banknote 💵\ndolls 🎎\ndolphin 🐬",
    "dominica 🇩🇲\ndominican_republic 🇩🇴\ndoor 🚪\ndotted_six-pointed_star 🔯\ndouble_curly_loop ➿",
    "double_exclamation_mark ‼\ndouble_vertical_bar ⏸\ndoughnut 🍩\ndove 🕊\ndove_of_peace 🕊",
    "down-left_arrow ↙\ndown-right_arrow ↘\ndown_arrow ⬇\ndowncast_face_with_sweat 😓",
    "downwards_button 🔽\ndragon 🐉\ndragon_face 🐲\ndress 👗\ndromedary_camel 🐪\ndrooling_face 🤤",
    "drop_of_blood 🩸\ndroplet 💧\ndrum 🥁\nduck 🦆\ndumpling 🥟\ndvd 📀"]

private def picturesE : List String := [
    "e-mail 📧\ne__mail 📧\neagle 🦅\near 👂\near_dark_skin_tone 👂🏿\near_light_skin_tone 👂🏻",
    "ear_medium-dark_skin_tone 👂🏾\near_medium-light_skin_tone 👂🏼\near_medium_skin_tone 👂🏽",
    "ear_of_corn 🌽\near_of_rice 🌾\near_with_hearing_aid 🦻\nearth_africa 🌍\nearth_americas 🌎",
    "earth_asia 🌏\necuador 🇪🇨\negg 🍳\neggplant 🍆\negypt 🇪🇬\neight 8️⃣\neight-pointed_star ✴",
    "eight-spoked_asterisk ✳\neight-thirty 🕣\neight_o’clock 🕗\neight_pointed_black_star ✴",
    "eight_spoked_asterisk ✳\neject_button ⏏\neject_symbol ⏏\nel_salvador 🇸🇻\nelectric_plug 🔌",
    "elephant 🐘\neleven-thirty 🕦\neleven_o’clock 🕚\nelf 🧝\nelf_dark_skin_tone 🧝🏿",
    "elf_light_skin_tone 🧝🏻\nelf_medium-dark_skin_tone 🧝🏾\nelf_medium-light_skin_tone 🧝🏼",
    "elf_medium_skin_tone 🧝🏽\nemail ✉\nemoji_modifier_fitzpatrick_type__1__2 🏻",
    "emoji_modifier_fitzpatrick_type__3 🏼\nemoji_modifier_fitzpatrick_type__4 🏽",
    "emoji_modifier_fitzpatrick_type__5 🏾\nemoji_modifier_fitzpatrick_type__6 🏿\nend 🔚\nend_arrow 🔚",
    "england 🏴󠁧󠁢󠁥󠁮󠁧󠁿\nenvelope ✉\nenvelope_with_arrow 📩\nequatorial_guinea 🇬🇶\neritrea 🇪🇷\nestonia 🇪🇪",
    "ethiopia 🇪🇹\neuro 💶\neuro_banknote 💶\neuropean_castle 🏰\neuropean_post_office 🏤\neuropean_union 🇪🇺",
    "evergreen_tree 🌲\newe 🐑\nexclamation ❗\nexclamation_mark ❗\nexclamation_question_mark ⁉",
    "exploding_head 🤯\nexpressionless 😑\nexpressionless_face 😑\neye 👁\neye_in_speech_bubble 👁️‍🗨️",
    "eyeglasses 👓\neyes 👀"]

private def picturesF : List String := [
    "face_blowing_a_kiss 😘\nface_savoring_food 😋\nface_screaming_in_fear 😱\nface_vomiting 🤮",
    "face_with_hand_over_mouth 🤭\nface_with_head-bandage 🤕\nface_with_head__bandage 🤕",
    "face_with_medical_mask 😷\nface_with_monocle 🧐\nface_with_open_mouth 😮\nface_with_raised_eyebrow 🤨",
    "face_with_rolling_eyes 🙄\nface_with_steam_from_nose 😤\nface_with_symbols_on_mouth 🤬",
    "face_with_tears_of_joy 😂\nface_with_thermometer 🤒\nface_with_tongue 😛\nface_without_mouth 😶",
    "facepunch 👊\nfactory 🏭\nfairy 🧚\nfairy_dark_skin_tone 🧚🏿\nfairy_light_skin_tone 🧚🏻",
    "fairy_medium-dark_skin_tone 🧚🏾\nfairy_medium-light_skin_tone 🧚🏼\nfairy_medium_skin_tone 🧚🏽",
    "falafel 🧆\nfalkland_islands 🇫🇰\nfallen_leaf 🍂\nfamily 👪\nfamily_man_boy 👨‍👦",
    "family_man_boy_boy 👨‍👦‍👦\nfamily_man_girl 👨‍👧\nfamily_man_girl_boy 👨‍👧‍👦",
    "family_man_girl_girl 👨‍👧‍👧\nfamily_man_man_boy 👨‍👨‍👦\nfamily_man_man_boy_boy 👨‍👨‍👦‍👦",
    "family_man_man_girl 👨‍👨‍👧\nfamily_man_man_girl_boy 👨‍👨‍👧‍👦\nfamily_man_man_girl_girl 👨‍👨‍👧‍👧",
    "family_man_woman_boy 👨‍👩‍👦\nfamily_man_woman_boy_boy 👨‍👩‍👦‍👦\nfamily_man_woman_girl 👨‍👩‍👧",
    "family_man_woman_girl_boy 👨‍👩‍👧‍👦\nfamily_man_woman_girl_girl 👨‍👩‍👧‍👧\nfamily_woman_boy 👩‍👦",
    "family_woman_boy_boy 👩‍👦‍👦\nfamily_woman_girl 👩‍👧\nfamily_woman_girl_boy 👩‍👧‍👦",
    "family_woman_girl_girl 👩‍👧‍👧\nfamily_woman_woman_boy 👩‍👩‍👦\nfamily_woman_woman_boy_boy 👩‍👩‍👦‍👦",
    "family_woman_woman_girl 👩‍👩‍👧\nfamily_woman_woman_girl_boy 👩‍👩‍👧‍👦",
    "family_woman_woman_girl_girl 👩‍👩‍👧‍👧\nfaroe_islands 🇫🇴\nfast-forward_button ⏩\nfast_down_button ⏬",
    "fast_forward ⏩\nfast_reverse_button ⏪\nfast_up_button ⏫\nfax 📠\nfax_machine 📠\nfearful 😨",
    "fearful_face 😨\nfeet 🐾\nfemale_sign ♀\nferris_wheel 🎡\nferry ⛴\nfield_hockey 🏑",
    "field_hockey_stick_and_ball 🏑\nfiji 🇫🇯\nfile_cabinet 🗄\nfile_folder 📁\nfilm_frames 🎞",
    "film_projector 📽\nfinland 🇫🇮\nfire 🔥\nfire_engine 🚒\nfire_extinguisher 🧯\nfirecracker 🧨",
    "fireworks 🎆\nfirst_quarter_moon 🌓\nfirst_quarter_moon_face 🌛\nfirst_quarter_moon_with_face 🌛",
    "fish 🐟\nfish_cake 🍥\nfish_cake_with_swirl 🍥\nfishing_pole 🎣\nfishing_pole_and_fish 🎣\nfist ✊",
    "five 5️⃣\nfive-thirty 🕠\nfive_o’clock 🕔\nflag_for_afghanistan 🇦🇫\nflag_for_albania 🇦🇱",
    "flag_for_algeria 🇩🇿\nflag_for_american_samoa 🇦🇸\nflag_for_andorra 🇦🇩\nflag_for_angola 🇦🇴",
    "flag_for_anguilla 🇦🇮\nflag_for_antarctica 🇦🇶\nflag_for_antigua_&_barbuda 🇦🇬\nflag_for_argentina 🇦🇷",
    "flag_for_armenia 🇦🇲\nflag_for_aruba 🇦🇼\nflag_for_ascension_island 🇦🇨\nflag_for_australia 🇦🇺",
    "flag_for_austria 🇦🇹\nflag_for_azerbaijan 🇦🇿\nflag_for_bahamas 🇧🇸\nflag_for_bahrain 🇧🇭",
    "flag_for_bangladesh 🇧🇩\nflag_for_barbados 🇧🇧\nflag_for_belarus 🇧🇾\nflag_for_belgium 🇧🇪",
    "flag_for_belize 🇧🇿\nflag_for_benin 🇧🇯\nflag_for_bermuda 🇧🇲\nflag_for_bhutan 🇧🇹",
    "flag_for_bolivia 🇧🇴\nflag_for_bosnia_&_herzegovina 🇧🇦\nflag_for_botswana 🇧🇼",
    "flag_for_bouvet_island 🇧🇻\nflag_for_brazil 🇧🇷\nflag_for_british_indian_ocean_territory 🇮🇴",
    "flag_for_british_virgin_islands 🇻🇬\nflag_for_brunei 🇧🇳\nflag_for_bulgaria 🇧🇬",
    "flag_for_burkina_faso 🇧🇫\nflag_for_burundi 🇧🇮\nflag_for_cambodia 🇰🇭\nflag_for_cameroon 🇨🇲",
    "flag_for_canada 🇨🇦\nflag_for_canary_islands 🇮🇨\nflag_for_cape_verde 🇨🇻",
    "flag_for_caribbean_netherlands 🇧🇶\nflag_for_cayman_islands 🇰🇾",
    "flag_for_central_african_republic 🇨🇫\nflag_for_ceuta_&_melilla 🇪🇦\nflag_for_chad 🇹🇩",
    "flag_for_chile 🇨🇱\nflag_for_china 🇨🇳\nflag_for_christmas_island 🇨🇽\nflag_for_clipperton_island 🇨🇵",
    "flag_for_cocos__islands 🇨🇨\nflag_for_colombia 🇨🇴\nflag_for_comoros 🇰🇲",
    "flag_for_congo____brazzaville 🇨🇬\nflag_for_congo____kinshasa 🇨🇩\nflag_for_cook_islands 🇨🇰",
    "flag_for_costa_rica 🇨🇷\nflag_for_croatia 🇭🇷\nflag_for_cuba 🇨🇺\nflag_for_curaçao 🇨🇼",
    "flag_for_cyprus 🇨🇾\nflag_for_czech_republic 🇨🇿\nflag_for_côte_d’ivoire 🇨🇮\nflag_for_denmark 🇩🇰",
    "flag_for_diego_garcia 🇩🇬\nflag_for_djibouti 🇩🇯\nflag_for_dominica 🇩🇲",
    "flag_for_dominican_republic 🇩🇴\nflag_for_ecuador 🇪🇨\nflag_for_egypt 🇪🇬\nflag_for_el_salvador 🇸🇻",
    "flag_for_equatorial_guinea 🇬🇶\nflag_for_eritrea 🇪🇷\nflag_for_estonia 🇪🇪\nflag_for_ethiopia 🇪🇹",
    "flag_for_european_union 🇪🇺\nflag_for_falkland_islands 🇫🇰\nflag_for_faroe_islands 🇫🇴",
    "flag_for_fiji 🇫🇯\nflag_for_finland 🇫🇮\nflag_for_france 🇫🇷\nflag_for_french_guiana 🇬🇫",
    "flag_for_french_polynesia 🇵🇫\nflag_for_french_southern_territories 🇹🇫\nflag_for_gabon 🇬🇦",
    "flag_for_gambia 🇬🇲\nflag_for_georgia 🇬🇪\nflag_for_germany 🇩🇪\nflag_for_ghana 🇬🇭",
    "flag_for_gibraltar 🇬🇮\nflag_for_greece 🇬🇷\nflag_for_greenland 🇬🇱\nflag_for_grenada 🇬🇩",
    "flag_for_guadeloupe 🇬🇵\nflag_for_guam 🇬🇺\nflag_for_guatemala 🇬🇹\nflag_for_guernsey 🇬🇬",
    "flag_for_guinea 🇬🇳\nflag_for_guinea__bissau 🇬🇼\nflag_for_guyana 🇬🇾\nflag_for_haiti 🇭🇹",
    "flag_for_heard_&_mcdonald_islands 🇭🇲\nflag_for_honduras 🇭🇳\nflag_for_hong_kong 🇭🇰",
    "flag_for_hungary 🇭🇺\nflag_for_iceland 🇮🇸\nflag_for_india 🇮🇳\nflag_for_indonesia 🇮🇩",
    "flag_for_iran 🇮🇷\nflag_for_iraq 🇮🇶\nflag_for_ireland 🇮🇪\nflag_for_isle_of_man 🇮🇲",
    "flag_for_israel 🇮🇱\nflag_for_italy 🇮🇹\nflag_for_jamaica 🇯🇲\nflag_for_japan 🇯🇵\nflag_for_jersey 🇯🇪",
    "flag_for_jordan 🇯🇴\nflag_for_kazakhstan 🇰🇿\nflag_for_kenya 🇰🇪\nflag_for_kiribati 🇰🇮",
    "flag_for_kosovo 🇽🇰\nflag_for_kuwait 🇰🇼\nflag_for_kyrgyzstan 🇰🇬\nflag_for_laos 🇱🇦",
    "flag_for_latvia 🇱🇻\nflag_for_lebanon 🇱🇧\nflag_for_lesotho 🇱🇸\nflag_for_liberia 🇱🇷",
    "flag_for_libya 🇱🇾\nflag_for_liechtenstein 🇱🇮\nflag_for_lithuania 🇱🇹\nflag_for_luxembourg 🇱🇺",
    "flag_for_macau 🇲🇴\nflag_for_macedonia 🇲🇰\nflag_for_madagascar 🇲🇬\nflag_for_malawi 🇲🇼",
    "flag_for_malaysia 🇲🇾\nflag_for_maldives 🇲🇻\nflag_for_mali 🇲🇱\nflag_for_malta 🇲🇹",
    "flag_for_marshall_islands 🇲🇭\nflag_for_martinique 🇲🇶\nflag_for_mauritania 🇲🇷",
    "flag_for_mauritius 🇲🇺\nflag_for_mayotte 🇾🇹\nflag_for_mexico 🇲🇽\nflag_for_micronesia 🇫🇲",
    "flag_for_moldova 🇲🇩\nflag_for_monaco 🇲🇨\nflag_for_mongolia 🇲🇳\nflag_for_montenegro 🇲🇪",
    "flag_for_montserrat 🇲🇸\nflag_for_morocco 🇲🇦\nflag_for_mozambique 🇲🇿\nflag_for_myanmar 🇲🇲",
    "flag_for_namibia 🇳🇦\nflag_for_nauru 🇳🇷\nflag_for_nepal 🇳🇵\nflag_for_netherlands 🇳🇱",
    "flag_for_new_caledonia 🇳🇨\nflag_for_new_zealand 🇳🇿\nflag_for_nicaragua 🇳🇮\nflag_for_niger 🇳🇪",
    "flag_for_nigeria 🇳🇬\nflag_for_niue 🇳🇺\nflag_for_norfolk_island 🇳🇫\nflag_for_north_korea 🇰🇵",
    "flag_for_northern_mariana_islands 🇲🇵\nflag_for_norway 🇳🇴\nflag_for_oman 🇴🇲\nflag_for_pakistan 🇵🇰",
    "flag_for_palau 🇵🇼\nflag_for_palestinian_territories 🇵🇸\nflag_for_panama 🇵🇦",
    "flag_for_papua_new_guinea 🇵🇬\nflag_for_paraguay 🇵🇾\nflag_for_peru 🇵🇪\nflag_for_philippines 🇵🇭",
    "flag_for_pitcairn_islands 🇵🇳\nflag_for_poland 🇵🇱\nflag_for_portugal 🇵🇹\nflag_for_puerto_rico 🇵🇷",
    "flag_for_qatar 🇶🇦\nflag_for_romania 🇷🇴\nflag_for_russia 🇷🇺\nflag_for_rwanda 🇷🇼",
    "flag_for_réunion 🇷🇪\nflag_for_samoa 🇼🇸\nflag_for_san_marino 🇸🇲\nflag_for_saudi_arabia 🇸🇦",
    "flag_for_senegal 🇸🇳\nflag_for_serbia 🇷🇸\nflag_for_seychelles 🇸🇨\nflag_for_sierra_leone 🇸🇱",
    "flag_for_singapore 🇸🇬\nflag_for_sint_maarten 🇸🇽\nflag_for_slovakia 🇸🇰\nflag_for_slovenia 🇸🇮",
    "flag_for_solomon_islands 🇸🇧\nflag_for_somalia 🇸🇴\nflag_for_south_africa 🇿🇦",
    "flag_for_south_georgia_&_south_sandwich_islands 🇬🇸\nflag_for_south_korea 🇰🇷",
    "flag_for_south_sudan 🇸🇸\nflag_for_spain 🇪🇸\nflag_for_sri_lanka 🇱🇰\nflag_for_st._barthélemy 🇧🇱",
    "flag_for_st._helena 🇸🇭\nflag_for_st._kitts_&_nevis 🇰🇳\nflag_for_st._lucia 🇱🇨",
    "flag_for_st._martin 🇲🇫\nflag_for_st._pierre_&_miquelon 🇵🇲\nflag_for_st._vincent_&_grenadines 🇻🇨",
    "flag_for_sudan 🇸🇩\nflag_for_suriname 🇸🇷\nflag_for_svalbard_&_jan_mayen 🇸🇯\nflag_for_swaziland 🇸🇿",
    "flag_for_sweden 🇸🇪\nflag_for_switzerland 🇨🇭\nflag_for_syria 🇸🇾\nflag_for_são_tomé_&_príncipe 🇸🇹",
    "flag_for_taiwan 🇹🇼\nflag_for_tajikistan 🇹🇯\nflag_for_tanzania 🇹🇿\nflag_for_thailand 🇹🇭",
    "flag_for_timor__leste 🇹🇱\nflag_for_togo 🇹🇬\nflag_for_tokelau 🇹🇰\nflag_for_tonga 🇹🇴",
    "flag_for_trinidad_&_tobago 🇹🇹\nflag_for_tristan_da_cunha 🇹🇦\nflag_for_tunisia 🇹🇳",
    "flag_for_turkey 🇹🇷\nflag_for_turkmenistan 🇹🇲\nflag_for_turks_&_caicos_islands 🇹🇨",
    "flag_for_tuvalu 🇹🇻\nflag_for_u.s._outlying_islands 🇺🇲\nflag_for_u.s._virgin_islands 🇻🇮",
    "flag_for_uganda 🇺🇬\nflag_for_ukraine 🇺🇦\nflag_for_united_arab_emirates 🇦🇪",
    "flag_for_united_kingdom 🇬🇧\nflag_for_united_states 🇺🇸\nflag_for_uruguay 🇺🇾\nflag_for_uzbekistan 🇺🇿",
    "flag_for_vanuatu 🇻🇺\nflag_for_vatican_city 🇻🇦\nflag_for_venezuela 🇻🇪\nflag_for_vietnam 🇻🇳",
    "flag_for_wallis_&_futuna 🇼🇫\nflag_for_western_sahara 🇪🇭\nflag_for_yemen 🇾🇪\nflag_for_zambia 🇿🇲",
    "flag_for_zimbabwe 🇿🇼\nflag_for_åland_islands 🇦🇽\nflag_in_hole ⛳\nflags 🎏\nflamingo 🦩\nflashlight 🔦",
    "flat_shoe 🥿\nfleur-de-lis ⚜\nfleur__de__lis ⚜\nflexed_biceps 💪\nflexed_biceps_dark_skin_tone 💪🏿",
    "flexed_biceps_light_skin_tone 💪🏻\nflexed_biceps_medium-dark_skin_tone 💪🏾",
    "flexed_biceps_medium-light_skin_tone 💪🏼\nflexed_biceps_medium_skin_tone 💪🏽\nflipper 🐬",
    "floppy_disk 💾\nflower_playing_cards 🎴\nflushed 😳\nflushed_face 😳\nflying_disc 🥏\nflying_saucer 🛸",
    "fog 🌫\nfoggy 🌁\nfolded_hands 🙏\nfolded_hands_dark_skin_tone 🙏🏿\nfolded_hands_light_skin_tone 🙏🏻",
    "folded_hands_medium-dark_skin_tone 🙏🏾\nfolded_hands_medium-light_skin_tone 🙏🏼",
    "folded_hands_medium_skin_tone 🙏🏽\nfoot 🦶\nfootball 🏈\nfootprints 👣\nfork_and_knife 🍴",
    "fork_and_knife_with_plate 🍽\nfortune_cookie 🥠\nfountain ⛲\nfountain_pen 🖋\nfour 4️⃣\nfour-thirty 🕟",
    "four_leaf_clover 🍀\nfour_o’clock 🕓\nfox_face 🦊\nframe_with_picture 🖼\nframed_picture 🖼\nfrance 🇫🇷",
    "free 🆓\nfree_button 🆓\nfrench_fries 🍟\nfrench_guiana 🇬🇫\nfrench_polynesia 🇵🇫",
    "french_southern_territories 🇹🇫\nfried_shrimp 🍤\nfries 🍟\nfrog 🐸\nfrog_face 🐸",
    "front-facing_baby_chick 🐥\nfrowning 😦\nfrowning_face ☹\nfrowning_face_with_open_mouth 😦",
    "fuel_pump ⛽\nfuelpump ⛽\nfull_moon 🌕\nfull_moon_face 🌝\nfull_moon_with_face 🌝\nfuneral_urn ⚱"]

private def picturesG : List String := [
    "gabon 🇬🇦\ngambia 🇬🇲\ngame_die 🎲\ngarlic 🧄\ngear ⚙\ngem 💎\ngem_stone 💎\ngemini ♊\ngenie 🧞",
    "georgia 🇬🇪\ngermany 🇩🇪\nghana 🇬🇭\nghost 👻\ngibraltar 🇬🇮\ngift 🎁\ngift_heart 💝\ngiraffe 🦒\ngirl 👧",
    "girl_dark_skin_tone 👧🏿\ngirl_light_skin_tone 👧🏻\ngirl_medium-dark_skin_tone 👧🏾",
    "girl_medium-light_skin_tone 👧🏼\ngirl_medium_skin_tone 👧🏽\nglass_of_milk 🥛\nglasses 👓",
    "globe_showing_americas 🌎\nglobe_showing_asia-australia 🌏\nglobe_showing_europe-africa 🌍",
    "globe_with_meridians 🌐\ngloves 🧤\nglowing_star 🌟\ngoal_net 🥅\ngoat 🐐\ngoblin 👺\ngoggles 🥽\ngolf ⛳",
    "golfer 🏌\ngorilla 🦍\ngraduation_cap 🎓\ngrapes 🍇\ngreece 🇬🇷\ngreen_apple 🍏\ngreen_book 📗",
    "green_circle 🟢\ngreen_heart 💚\ngreen_salad 🥗\ngreen_square 🟩\ngreenland 🇬🇱\ngrenada 🇬🇩",
    "grey_exclamation ❕\ngrey_question ❔\ngrimacing 😬\ngrimacing_face 😬\ngrin 😁\ngrinning 😀",
    "grinning_cat_face 😺\ngrinning_cat_face_with_smiling_eyes 😸\ngrinning_face 😀",
    "grinning_face_with_big_eyes 😃\ngrinning_face_with_smiling_eyes 😄\ngrinning_face_with_sweat 😅",
    "grinning_squinting_face 😆\ngrowing_heart 💗\nguadeloupe 🇬🇵\nguam 🇬🇺\nguard 💂",
    "guard_dark_skin_tone 💂🏿\nguard_light_skin_tone 💂🏻\nguard_medium-dark_skin_tone 💂🏾",
    "guard_medium-light_skin_tone 💂🏼\nguard_medium_skin_tone 💂🏽\nguardsman 💂\nguatemala 🇬🇹\nguernsey 🇬🇬",
    "guide_dog 🦮\nguinea 🇬🇳\nguinea-bissau 🇬🇼\nguitar 🎸\ngun 🔫\nguyana 🇬🇾"]

private def picturesH : List String := [
    "haircut 💇\nhaiti 🇭🇹\nhamburger 🍔\nhammer 🔨\nhammer_and_pick ⚒\nhammer_and_wrench 🛠\nhamster 🐹",
    "hamster_face 🐹\nhand ✋\nhand_with_fingers_splayed 🖐\nhand_with_fingers_splayed_dark_skin_tone 🖐🏿",
    "hand_with_fingers_splayed_light_skin_tone 🖐🏻\nhand_with_fingers_splayed_medium-dark_skin_tone 🖐🏾",
    "hand_with_fingers_splayed_medium-light_skin_tone 🖐🏼\nhand_with_fingers_splayed_medium_skin_tone 🖐🏽",
    "handbag 👜\nhandshake 🤝\nhankey 💩\nhatched_chick 🐥\nhatching_chick 🐣\nheadphone 🎧\nheadphones 🎧",
    "hear-no-evil_monkey 🙉\nhear_no_evil 🙉\nheard_&_mcdonald_islands 🇭🇲\nheart ❤\nheart_decoration 💟",
    "heart_eyes 😍\nheart_eyes_cat 😻\nheart_suit ♥\nheart_with_arrow 💘\nheart_with_ribbon 💝\nheartbeat 💓",
    "heartpulse 💗\nhearts ♥\nheavy_check_mark ✔\nheavy_division_sign ➗\nheavy_dollar_sign 💲",
    "heavy_exclamation_mark ❗\nheavy_heart_exclamation ❣\nheavy_heart_exclamation_mark_ornament ❣",
    "heavy_large_circle ⭕\nheavy_minus_sign ➖\nheavy_multiplication_x ✖\nheavy_plus_sign ➕\nhedgehog 🦔",
    "helicopter 🚁\nhelm_symbol ⎈\nhelmet_with_white_cross ⛑\nherb 🌿\nhibiscus 🌺\nhigh-heeled_shoe 👠",
    "high-speed_train 🚄\nhigh_brightness 🔆\nhigh_heel 👠\nhigh_voltage ⚡\nhiking_boot 🥾\nhindu_temple 🛕",
    "hippopotamus 🦛\nhocho 🔪\nhole 🕳\nhonduras 🇭🇳\nhoney_pot 🍯\nhoneybee 🐝\nhong_kong_sar_china 🇭🇰",
    "horizontal_traffic_light 🚥\nhorse 🐴\nhorse_face 🐴\nhorse_racing 🏇\nhorse_racing_dark_skin_tone 🏇🏿",
    "horse_racing_light_skin_tone 🏇🏻\nhorse_racing_medium-dark_skin_tone 🏇🏾",
    "horse_racing_medium-light_skin_tone 🏇🏼\nhorse_racing_medium_skin_tone 🏇🏽\nhospital 🏥",
    "hot_beverage ☕\nhot_dog 🌭\nhot_face 🥵\nhot_pepper 🌶\nhot_springs ♨\nhotel 🏨\nhotsprings ♨",
    "hourglass ⌛\nhourglass_done ⌛\nhourglass_flowing_sand ⏳\nhourglass_not_done ⏳\nhouse 🏠",
    "house_buildings 🏘\nhouse_with_garden 🏡\nhouses 🏘\nhugging_face 🤗\nhundred_points 💯\nhungary 🇭🇺",
    "hushed 😯\nhushed_face 😯"]

private def picturesI : List String := [
    "ice 🧊\nice_cream 🍨\nice_hockey 🏒\nice_hockey_stick_and_puck 🏒\nice_skate ⛸\nicecream 🍦\niceland 🇮🇸",
    "id 🆔\nid_button 🆔\nideograph_advantage 🉐\nimp 👿\ninbox_tray 📥\nincoming_envelope 📨",
    "index_pointing_up ☝\nindex_pointing_up_dark_skin_tone ☝🏿\nindex_pointing_up_light_skin_tone ☝🏻",
    "index_pointing_up_medium-dark_skin_tone ☝🏾\nindex_pointing_up_medium-light_skin_tone ☝🏼",
    "index_pointing_up_medium_skin_tone ☝🏽\nindia 🇮🇳\nindonesia 🇮🇩\ninfinity ♾\ninformation ℹ",
    "information_desk_person 💁\ninformation_source ℹ\ninnocent 😇\ninput_latin_letters 🔤",
    "input_latin_lowercase 🔡\ninput_latin_uppercase 🔠\ninput_numbers 🔢\ninput_symbols 🔣\ninterrobang ⁉",
    "iphone 📱\niran 🇮🇷\niraq 🇮🇶\nireland 🇮🇪\nisle_of_man 🇮🇲\nisrael 🇮🇱\nitaly 🇮🇹\nizakaya_lantern 🏮"]

private def picturesJ : List String := [
    "jack-o-lantern 🎃\njack_o_lantern 🎃\njamaica 🇯🇲\njapan 🗾\njapanese_acceptable_button 🉑",
    "japanese_application_button 🈸\njapanese_bargain_button 🉐\njapanese_castle 🏯",
    "japanese_congratulations_button ㊗\njapanese_discount_button 🈹\njapanese_dolls 🎎",
    "japanese_free_of_charge_button 🈚\njapanese_goblin 👺\njapanese_here_button 🈁",
    "japanese_monthly_amount_button 🈷\njapanese_no_vacancy_button 🈵",
    "japanese_not_free_of_charge_button 🈶\njapanese_ogre 👹\njapanese_open_for_business_button 🈺",
    "japanese_passing_grade_button 🈴\njapanese_post_office 🏣\njapanese_prohibited_button 🈲",
    "japanese_reserved_button 🈯\njapanese_secret_button ㊙\njapanese_service_charge_button 🈂",
    "japanese_symbol_for_beginner 🔰\njapanese_vacancy_button 🈳\njeans 👖\njersey 🇯🇪\njigsaw 🧩\njoker 🃏",
    "jordan 🇯🇴\njoy 😂\njoy_cat 😹\njoystick 🕹"]

private def picturesK : List String := [
    "kaaba 🕋\nkangaroo 🦘\nkazakhstan 🇰🇿\nkenya 🇰🇪\nkey 🔑\nkeyboard ⌨\nkeycap_# #️⃣\nkeycap_* *️⃣",
    "keycap_0 0️⃣\nkeycap_1 1️⃣\nkeycap_10 🔟\nkeycap_2 2️⃣\nkeycap_3 3️⃣\nkeycap_4 4️⃣\nkeycap_5 5️⃣",
    "keycap_6 6️⃣\nkeycap_7 7️⃣\nkeycap_8 8️⃣\nkeycap_9 9️⃣\nkeycap_asterisk *⃣\nkeycap_digit_eight 8⃣",
    "keycap_digit_five 5⃣\nkeycap_digit_four 4⃣\nkeycap_digit_nine 9⃣\nkeycap_digit_one 1⃣",
    "keycap_digit_seven 7⃣\nkeycap_digit_six 6⃣\nkeycap_digit_three 3⃣\nkeycap_digit_two 2⃣",
    "keycap_digit_zero 0⃣\nkeycap_number_sign #⃣\nkick_scooter 🛴\nkimono 👘\nkiribati 🇰🇮\nkiss 💋",
    "kiss_man_man 👨‍❤️‍💋‍👨\nkiss_mark 💋\nkiss_woman_man 👩‍❤️‍💋‍👨\nkiss_woman_woman 👩‍❤️‍💋‍👩\nkissing 😗",
    "kissing_cat 😽\nkissing_cat_face 😽\nkissing_closed_eyes 😚\nkissing_face 😗",
    "kissing_face_with_closed_eyes 😚\nkissing_face_with_smiling_eyes 😙\nkissing_heart 😘",
    "kissing_smiling_eyes 😙\nkitchen_knife 🔪\nkite 🪁\nkiwi_fruit 🥝\nknife 🔪\nkoala 🐨\nkoko 🈁\nkosovo 🇽🇰",
    "kuwait 🇰🇼\nkyrgyzstan 🇰🇬"]

private def picturesL : List String := [
    "lab_coat 🥼\nlabel 🏷\nlacrosse 🥍\nlady_beetle 🐞\nlantern 🏮\nlaos 🇱🇦\nlaptop_computer 💻",
    "large_blue_circle 🔵\nlarge_blue_diamond 🔷\nlarge_orange_diamond 🔶\nlast_quarter_moon 🌗",
    "last_quarter_moon_face 🌜\nlast_quarter_moon_with_face 🌜\nlast_track_button ⏮\nlatin_cross ✝",
    "latvia 🇱🇻\nlaughing 😆\nleaf_fluttering_in_wind 🍃\nleafy_green 🥬\nleaves 🍃\nlebanon 🇱🇧\nledger 📒",
    "left-facing_fist 🤛\nleft-facing_fist_dark_skin_tone 🤛🏿\nleft-facing_fist_light_skin_tone 🤛🏻",
    "left-facing_fist_medium-dark_skin_tone 🤛🏾\nleft-facing_fist_medium-light_skin_tone 🤛🏼",
    "left-facing_fist_medium_skin_tone 🤛🏽\nleft-right_arrow ↔\nleft_arrow ⬅\nleft_arrow_curving_right ↪",
    "left_luggage 🛅\nleft_right_arrow ↔\nleft_speech_bubble 🗨\nleftwards_arrow_with_hook ↩\nleg 🦵",
    "lemon 🍋\nleo ♌\nleopard 🐆\nlesotho 🇱🇸\nlevel_slider 🎚\nliberia 🇱🇷\nlibra ♎\nlibya 🇱🇾",
    "liechtenstein 🇱🇮\nlight_bulb 💡\nlight_rail 🚈\nlight_skin_tone 🏻\nlink 🔗\nlinked_paperclips 🖇",
    "lion_face 🦁\nlips 👄\nlipstick 💄\nlithuania 🇱🇹\nlitter_in_bin_sign 🚮\nlizard 🦎\nllama 🦙\nlobster 🦞",
    "lock 🔒\nlock_with_ink_pen 🔏\nlocked 🔒\nlocked_with_key 🔐\nlocked_with_pen 🔏\nlocomotive 🚂",
    "lollipop 🍭\nloop ➿\nlotion_bottle 🧴\nloud_sound 🔊\nloudly_crying_face 😭\nloudspeaker 📢",
    "love-you_gesture 🤟\nlove-you_gesture_dark_skin_tone 🤟🏿\nlove-you_gesture_light_skin_tone 🤟🏻",
    "love-you_gesture_medium-dark_skin_tone 🤟🏾\nlove-you_gesture_medium-light_skin_tone 🤟🏼",
    "love-you_gesture_medium_skin_tone 🤟🏽\nlove_hotel 🏩\nlove_letter 💌\nlow_brightness 🔅",
    "lower_left_ballpoint_pen 🖊\nlower_left_crayon 🖍\nlower_left_fountain_pen 🖋",
    "lower_left_paintbrush 🖌\nluggage 🧳\nluxembourg 🇱🇺\nlying_face 🤥"]

private def picturesM : List String := [
    "m Ⓜ\nmacau_sar_china 🇲🇴\nmacedonia 🇲🇰\nmadagascar 🇲🇬\nmag 🔍\nmag_right 🔎\nmage 🧙",
    "mage_dark_skin_tone 🧙🏿\nmage_light_skin_tone 🧙🏻\nmage_medium-dark_skin_tone 🧙🏾",
    "mage_medium-light_skin_tone 🧙🏼\nmage_medium_skin_tone 🧙🏽\nmagnet 🧲\nmagnifying_glass_tilted_left 🔍",
    "magnifying_glass_tilted_right 🔎\nmahjong 🀄\nmahjong_red_dragon 🀄\nmailbox 📫\nmailbox_closed 📪",
    "mailbox_with_mail 📬\nmailbox_with_no_mail 📭\nmalawi 🇲🇼\nmalaysia 🇲🇾\nmaldives 🇲🇻\nmale_sign ♂",
    "mali 🇲🇱\nmalta 🇲🇹\nman 👨\nman_and_woman_holding_hands 👫\nman_artist 👨‍🎨",
    "man_artist_dark_skin_tone 👨🏿‍🎨\nman_artist_light_skin_tone 👨🏻‍🎨",
    "man_artist_medium-dark_skin_tone 👨🏾‍🎨\nman_artist_medium-light_skin_tone 👨🏼‍🎨",
    "man_artist_medium_skin_tone 👨🏽‍🎨\nman_astronaut 👨‍🚀\nman_astronaut_dark_skin_tone 👨🏿‍🚀",
    "man_astronaut_light_skin_tone 👨🏻‍🚀\nman_astronaut_medium-dark_skin_tone 👨🏾‍🚀",
    "man_astronaut_medium-light_skin_tone 👨🏼‍🚀\nman_astronaut_medium_skin_tone 👨🏽‍🚀\nman_biking 🚴‍♂️",
    "man_biking_dark_skin_tone 🚴🏿‍♂️\nman_biking_light_skin_tone 🚴🏻‍♂️",
    "man_biking_medium-dark_skin_tone 🚴🏾‍♂️\nman_biking_medium-light_skin_tone 🚴🏼‍♂️",
    "man_biking_medium_skin_tone 🚴🏽‍♂️\nman_bouncing_ball ⛹️‍♂️\nman_bouncing_ball_dark_skin_tone ⛹🏿‍♂️",
    "man_bouncing_ball_light_skin_tone ⛹🏻‍♂️\nman_bouncing_ball_medium-dark_skin_tone ⛹🏾‍♂️",
    "man_bouncing_ball_medium-light_skin_tone ⛹🏼‍♂️\nman_bouncing_ball_medium_skin_tone ⛹🏽‍♂️",
    "man_bowing 🙇‍♂️\nman_bowing_dark_skin_tone 🙇🏿‍♂️\nman_bowing_light_skin_tone 🙇🏻‍♂️",
    "man_bowing_medium-dark_skin_tone 🙇🏾‍♂️\nman_bowing_medium-light_skin_tone 🙇🏼‍♂️",
    "man_bowing_medium_skin_tone 🙇🏽‍♂️\nman_cartwheeling 🤸‍♂️\nman_cartwheeling_dark_skin_tone 🤸🏿‍♂️",
    "man_cartwheeling_light_skin_tone 🤸🏻‍♂️\nman_cartwheeling_medium-dark_skin_tone 🤸🏾‍♂️",
    "man_cartwheeling_medium-light_skin_tone 🤸🏼‍♂️\nman_cartwheeling_medium_skin_tone 🤸🏽‍♂️",
    "man_climbing 🧗‍♂️\nman_climbing_dark_skin_tone 🧗🏿‍♂️\nman_climbing_light_skin_tone 🧗🏻‍♂️",
    "man_climbing_medium-dark_skin_tone 🧗🏾‍♂️\nman_climbing_medium-light_skin_tone 🧗🏼‍♂️",
    "man_climbing_medium_skin_tone 🧗🏽‍♂️\nman_construction_worker 👷‍♂️",
    "man_construction_worker_dark_skin_tone 👷🏿‍♂️\nman_construction_worker_light_skin_tone 👷🏻‍♂️",
    "man_construction_worker_medium-dark_skin_tone 👷🏾‍♂️",
    "man_construction_worker_medium-light_skin_tone 👷🏼‍♂️",
    "man_construction_worker_medium_skin_tone 👷🏽‍♂️\nman_cook 👨‍🍳\nman_cook_dark_skin_tone 👨🏿‍🍳",
    "man_cook_light_skin_tone 👨🏻‍🍳\nman_cook_medium-dark_skin_tone 👨🏾‍🍳",
    "man_cook_medium-light_skin_tone 👨🏼‍🍳\nman_cook_medium_skin_tone 👨🏽‍🍳\nman_dancing 🕺",
    "man_dancing_dark_skin_tone 🕺🏿\nman_dancing_light_skin_tone 🕺🏻",
    "man_dancing_medium-dark_skin_tone 🕺🏾\nman_dancing_medium-light_skin_tone 🕺🏼",
    "man_dancing_medium_skin_tone 🕺🏽\nman_dark_skin_tone 👨🏿\nman_detective 🕵️‍♂️",
    "man_detective_dark_skin_tone 🕵🏿‍♂️\nman_detective_light_skin_tone 🕵🏻‍♂️",
    "man_detective_medium-dark_skin_tone 🕵🏾‍♂️\nman_detective_medium-light_skin_tone 🕵🏼‍♂️",
    "man_detective_medium_skin_tone 🕵🏽‍♂️\nman_elf 🧝‍♂️\nman_elf_dark_skin_tone 🧝🏿‍♂️",
    "man_elf_light_skin_tone 🧝🏻‍♂️\nman_elf_medium-dark_skin_tone 🧝🏾‍♂️",
    "man_elf_medium-light_skin_tone 🧝🏼‍♂️\nman_elf_medium_skin_tone 🧝🏽‍♂️\nman_facepalming 🤦‍♂️",
    "man_facepalming_dark_skin_tone 🤦🏿‍♂️\nman_facepalming_light_skin_tone 🤦🏻‍♂️",
    "man_facepalming_medium-dark_skin_tone 🤦🏾‍♂️\nman_facepalming_medium-light_skin_tone 🤦🏼‍♂️",
    "man_facepalming_medium_skin_tone 🤦🏽‍♂️\nman_factory_worker 👨‍🏭",
    "man_factory_worker_dark_skin_tone 👨🏿‍🏭\nman_factory_worker_light_skin_tone 👨🏻‍🏭",
    "man_factory_worker_medium-dark_skin_tone 👨🏾‍🏭\nman_factory_worker_medium-light_skin_tone 👨🏼‍🏭",
    "man_factory_worker_medium_skin_tone 👨🏽‍🏭\nman_fairy 🧚‍♂️\nman_fairy_dark_skin_tone 🧚🏿‍♂️",
    "man_fairy_light_skin_tone 🧚🏻‍♂️\nman_fairy_medium-dark_skin_tone 🧚🏾‍♂️",
    "man_fairy_medium-light_skin_tone 🧚🏼‍♂️\nman_fairy_medium_skin_tone 🧚🏽‍♂️\nman_farmer 👨‍🌾",
    "man_farmer_dark_skin_tone 👨🏿‍🌾\nman_farmer_light_skin_tone 👨🏻‍🌾",
    "man_farmer_medium-dark_skin_tone 👨🏾‍🌾\nman_farmer_medium-light_skin_tone 👨🏼‍🌾",
    "man_farmer_medium_skin_tone 👨🏽‍🌾\nman_firefighter 👨‍🚒\nman_firefighter_dark_skin_tone 👨🏿‍🚒",
    "man_firefighter_light_skin_tone 👨🏻‍🚒\nman_firefighter_medium-dark_skin_tone 👨🏾‍🚒",
    "man_firefighter_medium-light_skin_tone 👨🏼‍🚒\nman_firefighter_medium_skin_tone 👨🏽‍🚒",
    "man_frowning 🙍‍♂️\nman_frowning_dark_skin_tone 🙍🏿‍♂️\nman_frowning_light_skin_tone 🙍🏻‍♂️",
    "man_frowning_medium-dark_skin_tone 🙍🏾‍♂️\nman_frowning_medium-light_skin_tone 🙍🏼‍♂️",
    "man_frowning_medium_skin_tone 🙍🏽‍♂️\nman_genie 🧞‍♂️\nman_gesturing_no 🙅‍♂️",
    "man_gesturing_no_dark_skin_tone 🙅🏿‍♂️\nman_gesturing_no_light_skin_tone 🙅🏻‍♂️",
    "man_gesturing_no_medium-dark_skin_tone 🙅🏾‍♂️\nman_gesturing_no_medium-light_skin_tone 🙅🏼‍♂️",
    "man_gesturing_no_medium_skin_tone 🙅🏽‍♂️\nman_gesturing_ok 🙆‍♂️",
    "man_gesturing_ok_dark_skin_tone 🙆🏿‍♂️\nman_gesturing_ok_light_skin_tone 🙆🏻‍♂️",
    "man_gesturing_ok_medium-dark_skin_tone 🙆🏾‍♂️\nman_gesturing_ok_medium-light_skin_tone 🙆🏼‍♂️",
    "man_gesturing_ok_medium_skin_tone 🙆🏽‍♂️\nman_getting_haircut 💇‍♂️",
    "man_getting_haircut_dark_skin_tone 💇🏿‍♂️\nman_getting_haircut_light_skin_tone 💇🏻‍♂️",
    "man_getting_haircut_medium-dark_skin_tone 💇🏾‍♂️\nman_getting_haircut_medium-light_skin_tone 💇🏼‍♂️",
    "man_getting_haircut_medium_skin_tone 💇🏽‍♂️\nman_getting_massage 💆‍♂️",
    "man_getting_massage_dark_skin_tone 💆🏿‍♂️\nman_getting_massage_light_skin_tone 💆🏻‍♂️",
    "man_getting_massage_medium-dark_skin_tone 💆🏾‍♂️\nman_getting_massage_medium-light_skin_tone 💆🏼‍♂️",
    "man_getting_massage_medium_skin_tone 💆🏽‍♂️\nman_golfing 🏌️‍♂️\nman_golfing_dark_skin_tone 🏌🏿‍♂️",
    "man_golfing_light_skin_tone 🏌🏻‍♂️\nman_golfing_medium-dark_skin_tone 🏌🏾‍♂️",
    "man_golfing_medium-light_skin_tone 🏌🏼‍♂️\nman_golfing_medium_skin_tone 🏌🏽‍♂️\nman_guard 💂‍♂️",
    "man_guard_dark_skin_tone 💂🏿‍♂️\nman_guard_light_skin_tone 💂🏻‍♂️",
    "man_guard_medium-dark_skin_tone 💂🏾‍♂️\nman_guard_medium-light_skin_tone 💂🏼‍♂️",
    "man_guard_medium_skin_tone 💂🏽‍♂️\nman_health_worker 👨‍⚕️\nman_health_worker_dark_skin_tone 👨🏿‍⚕️",
    "man_health_worker_light_skin_tone 👨🏻‍⚕️\nman_health_worker_medium-dark_skin_tone 👨🏾‍⚕️",
    "man_health_worker_medium-light_skin_tone 👨🏼‍⚕️\nman_health_worker_medium_skin_tone 👨🏽‍⚕️",
    "man_in_business_suit_levitating 🕴\nman_in_lotus_position 🧘‍♂️",
    "man_in_lotus_position_dark_skin_tone 🧘🏿‍♂️\nman_in_lotus_position_light_skin_tone 🧘🏻‍♂️",
    "man_in_lotus_position_medium-dark_skin_tone 🧘🏾‍♂️",
    "man_in_lotus_position_medium-light_skin_tone 🧘🏼‍♂️\nman_in_lotus_position_medium_skin_tone 🧘🏽‍♂️",
    "man_in_manual_wheelchair 👨‍🦽\nman_in_motorized_wheelchair 👨‍🦼\nman_in_steamy_room 🧖‍♂️",
    "man_in_steamy_room_dark_skin_tone 🧖🏿‍♂️\nman_in_steamy_room_light_skin_tone 🧖🏻‍♂️",
    "man_in_steamy_room_medium-dark_skin_tone 🧖🏾‍♂️\nman_in_steamy_room_medium-light_skin_tone 🧖🏼‍♂️",
    "man_in_steamy_room_medium_skin_tone 🧖🏽‍♂️\nman_in_suit_levitating 🕴",
    "man_in_suit_levitating_dark_skin_tone 🕴🏿\nman_in_suit_levitating_light_skin_tone 🕴🏻",
    "man_in_suit_levitating_medium-dark_skin_tone 🕴🏾\nman_in_suit_levitating_medium-light_skin_tone 🕴🏼",
    "man_in_suit_levitating_medium_skin_tone 🕴🏽\nman_in_tuxedo 🤵\nman_in_tuxedo_dark_skin_tone 🤵🏿",
    "man_in_tuxedo_light_skin_tone 🤵🏻\nman_in_tuxedo_medium-dark_skin_tone 🤵🏾",
    "man_in_tuxedo_medium-light_skin_tone 🤵🏼\nman_in_tuxedo_medium_skin_tone 🤵🏽\nman_judge 👨‍⚖️",
    "man_judge_dark_skin_tone 👨🏿‍⚖️\nman_judge_light_skin_tone 👨🏻‍⚖️",
    "man_judge_medium-dark_skin_tone 👨🏾‍⚖️\nman_judge_medium-light_skin_tone 👨🏼‍⚖️",
    "man_judge_medium_skin_tone 👨🏽‍⚖️\nman_juggling 🤹‍♂️\nman_juggling_dark_skin_tone 🤹🏿‍♂️",
    "man_juggling_light_skin_tone 🤹🏻‍♂️\nman_juggling_medium-dark_skin_tone 🤹🏾‍♂️",
    "man_juggling_medium-light_skin_tone 🤹🏼‍♂️\nman_juggling_medium_skin_tone 🤹🏽‍♂️",
    "man_lifting_weights 🏋️‍♂️\nman_lifting_weights_dark_skin_tone 🏋🏿‍♂️",
    "man_lifting_weights_light_skin_tone 🏋🏻‍♂️\nman_lifting_weights_medium-dark_skin_tone 🏋🏾‍♂️",
    "man_lifting_weights_medium-light_skin_tone 🏋🏼‍♂️\nman_lifting_weights_medium_skin_tone 🏋🏽‍♂️",
    "man_light_skin_tone 👨🏻\nman_mage 🧙‍♂️\nman_mage_dark_skin_tone 🧙🏿‍♂️",
    "man_mage_light_skin_tone 🧙🏻‍♂️\nman_mage_medium-dark_skin_tone 🧙🏾‍♂️",
    "man_mage_medium-light_skin_tone 🧙🏼‍♂️\nman_mage_medium_skin_tone 🧙🏽‍♂️\nman_mechanic 👨‍🔧",
    "man_mechanic_dark_skin_tone 👨🏿‍🔧\nman_mechanic_light_skin_tone 👨🏻‍🔧",
    "man_mechanic_medium-dark_skin_tone 👨🏾‍🔧\nman_mechanic_medium-light_skin_tone 👨🏼‍🔧",
    "man_mechanic_medium_skin_tone 👨🏽‍🔧\nman_medium-dark_skin_tone 👨🏾\nman_medium-light_skin_tone 👨🏼",
    "man_medium_skin_tone 👨🏽\nman_mountain_biking 🚵‍♂️\nman_mountain_biking_dark_skin_tone 🚵🏿‍♂️",
    "man_mountain_biking_light_skin_tone 🚵🏻‍♂️\nman_mountain_biking_medium-dark_skin_tone 🚵🏾‍♂️",
    "man_mountain_biking_medium-light_skin_tone 🚵🏼‍♂️\nman_mountain_biking_medium_skin_tone 🚵🏽‍♂️",
    "man_office_worker 👨‍💼\nman_office_worker_dark_skin_tone 👨🏿‍💼",
    "man_office_worker_light_skin_tone 👨🏻‍💼\nman_office_worker_medium-dark_skin_tone 👨🏾‍💼",
    "man_office_worker_medium-light_skin_tone 👨🏼‍💼\nman_office_worker_medium_skin_tone 👨🏽‍💼",
    "man_pilot 👨‍✈️\nman_pilot_dark_skin_tone 👨🏿‍✈️\nman_pilot_light_skin_tone 👨🏻‍✈️",
    "man_pilot_medium-dark_skin_tone 👨🏾‍✈️\nman_pilot_medium-light_skin_tone 👨🏼‍✈️",
    "man_pilot_medium_skin_tone 👨🏽‍✈️\nman_playing_handball 🤾‍♂️",
    "man_playing_handball_dark_skin_tone 🤾🏿‍♂️\nman_playing_handball_light_skin_tone 🤾🏻‍♂️",
    "man_playing_handball_medium-dark_skin_tone 🤾🏾‍♂️",
    "man_playing_handball_medium-light_skin_tone 🤾🏼‍♂️\nman_playing_handball_medium_skin_tone 🤾🏽‍♂️",
    "man_playing_water_polo 🤽‍♂️\nman_playing_water_polo_dark_skin_tone 🤽🏿‍♂️",
    "man_playing_water_polo_light_skin_tone 🤽🏻‍♂️\nman_playing_water_polo_medium-dark_skin_tone 🤽🏾‍♂️",
    "man_playing_water_polo_medium-light_skin_tone 🤽🏼‍♂️\nman_playing_water_polo_medium_skin_tone 🤽🏽‍♂️",
    "man_police_officer 👮‍♂️\nman_police_officer_dark_skin_tone 👮🏿‍♂️",
    "man_police_officer_light_skin_tone 👮🏻‍♂️\nman_police_officer_medium-dark_skin_tone 👮🏾‍♂️",
    "man_police_officer_medium-light_skin_tone 👮🏼‍♂️\nman_police_officer_medium_skin_tone 👮🏽‍♂️",
    "man_pouting 🙎‍♂️\nman_pouting_dark_skin_tone 🙎🏿‍♂️\nman_pouting_light_skin_tone 🙎🏻‍♂️",
    "man_pouting_medium-dark_skin_tone 🙎🏾‍♂️\nman_pouting_medium-light_skin_tone 🙎🏼‍♂️",
    "man_pouting_medium_skin_tone 🙎🏽‍♂️\nman_raising_hand 🙋‍♂️\nman_raising_hand_dark_skin_tone 🙋🏿‍♂️",
    "man_raising_hand_light_skin_tone 🙋🏻‍♂️\nman_raising_hand_medium-dark_skin_tone 🙋🏾‍♂️",
    "man_raising_hand_medium-light_skin_tone 🙋🏼‍♂️\nman_raising_hand_medium_skin_tone 🙋🏽‍♂️",
    "man_rowing_boat 🚣‍♂️\nman_rowing_boat_dark_skin_tone 🚣🏿‍♂️\nman_rowing_boat_light_skin_tone 🚣🏻‍♂️",
    "man_rowing_boat_medium-dark_skin_tone 🚣🏾‍♂️\nman_rowing_boat_medium-light_skin_tone 🚣🏼‍♂️",
    "man_rowing_boat_medium_skin_tone 🚣🏽‍♂️\nman_running 🏃‍♂️\nman_running_dark_skin_tone 🏃🏿‍♂️",
    "man_running_light_skin_tone 🏃🏻‍♂️\nman_running_medium-dark_skin_tone 🏃🏾‍♂️",
    "man_running_medium-light_skin_tone 🏃🏼‍♂️\nman_running_medium_skin_tone 🏃🏽‍♂️\nman_scientist 👨‍🔬",
    "man_scientist_dark_skin_tone 👨🏿‍🔬\nman_scientist_light_skin_tone 👨🏻‍🔬",
    "man_scientist_medium-dark_skin_tone 👨🏾‍🔬\nman_scientist_medium-light_skin_tone 👨🏼‍🔬",
    "man_scientist_medium_skin_tone 👨🏽‍🔬\nman_shrugging 🤷‍♂️\nman_shrugging_dark_skin_tone 🤷🏿‍♂️",
    "man_shrugging_light_skin_tone 🤷🏻‍♂️\nman_shrugging_medium-dark_skin_tone 🤷🏾‍♂️",
    "man_shrugging_medium-light_skin_tone 🤷🏼‍♂️\nman_shrugging_medium_skin_tone 🤷🏽‍♂️\nman_singer 👨‍🎤",
    "man_singer_dark_skin_tone 👨🏿‍🎤\nman_singer_light_skin_tone 👨🏻‍🎤",
    "man_singer_medium-dark_skin_tone 👨🏾‍🎤\nman_singer_medium-light_skin_tone 👨🏼‍🎤",
    "man_singer_medium_skin_tone 👨🏽‍🎤\nman_student 👨‍🎓\nman_student_dark_skin_tone 👨🏿‍🎓",
    "man_student_light_skin_tone 👨🏻‍🎓\nman_student_medium-dark_skin_tone 👨🏾‍🎓",
    "man_student_medium-light_skin_tone 👨🏼‍🎓\nman_student_medium_skin_tone 👨🏽‍🎓\nman_surfing 🏄‍♂️",
    "man_surfing_dark_skin_tone 🏄🏿‍♂️\nman_surfing_light_skin_tone 🏄🏻‍♂️",
    "man_surfing_medium-dark_skin_tone 🏄🏾‍♂️\nman_surfing_medium-light_skin_tone 🏄🏼‍♂️",
    "man_surfing_medium_skin_tone 🏄🏽‍♂️\nman_swimming 🏊‍♂️\nman_swimming_dark_skin_tone 🏊🏿‍♂️",
    "man_swimming_light_skin_tone 🏊🏻‍♂️\nman_swimming_medium-dark_skin_tone 🏊🏾‍♂️",
    "man_swimming_medium-light_skin_tone 🏊🏼‍♂️\nman_swimming_medium_skin_tone 🏊🏽‍♂️\nman_teacher 👨‍🏫",
    "man_teacher_dark_skin_tone 👨🏿‍🏫\nman_teacher_light_skin_tone 👨🏻‍🏫",
    "man_teacher_medium-dark_skin_tone 👨🏾‍🏫\nman_teacher_medium-light_skin_tone 👨🏼‍🏫",
    "man_teacher_medium_skin_tone 👨🏽‍🏫\nman_technologist 👨‍💻\nman_technologist_dark_skin_tone 👨🏿‍💻",
    "man_technologist_light_skin_tone 👨🏻‍💻\nman_technologist_medium-dark_skin_tone 👨🏾‍💻",
    "man_technologist_medium-light_skin_tone 👨🏼‍💻\nman_technologist_medium_skin_tone 👨🏽‍💻",
    "man_tipping_hand 💁‍♂️\nman_tipping_hand_dark_skin_tone 💁🏿‍♂️",
    "man_tipping_hand_light_skin_tone 💁🏻‍♂️\nman_tipping_hand_medium-dark_skin_tone 💁🏾‍♂️",
    "man_tipping_hand_medium-light_skin_tone 💁🏼‍♂️\nman_tipping_hand_medium_skin_tone 💁🏽‍♂️",
    "man_vampire 🧛‍♂️\nman_vampire_dark_skin_tone 🧛🏿‍♂️\nman_vampire_light_skin_tone 🧛🏻‍♂️",
    "man_vampire_medium-dark_skin_tone 🧛🏾‍♂️\nman_vampire_medium-light_skin_tone 🧛🏼‍♂️",
    "man_vampire_medium_skin_tone 🧛🏽‍♂️\nman_walking 🚶‍♂️\nman_walking_dark_skin_tone 🚶🏿‍♂️",
    "man_walking_light_skin_tone 🚶🏻‍♂️\nman_walking_medium-dark_skin_tone 🚶🏾‍♂️",
    "man_walking_medium-light_skin_tone 🚶🏼‍♂️\nman_walking_medium_skin_tone 🚶🏽‍♂️",
    "man_wearing_turban 👳‍♂️\nman_wearing_turban_dark_skin_tone 👳🏿‍♂️",
    "man_wearing_turban_light_skin_tone 👳🏻‍♂️\nman_wearing_turban_medium-dark_skin_tone 👳🏾‍♂️",
    "man_wearing_turban_medium-light_skin_tone 👳🏼‍♂️\nman_wearing_turban_medium_skin_tone 👳🏽‍♂️",
    "man_with_chinese_cap 👲\nman_with_chinese_cap_dark_skin_tone 👲🏿",
    "man_with_chinese_cap_light_skin_tone 👲🏻\nman_with_chinese_cap_medium-dark_skin_tone 👲🏾",
    "man_with_chinese_cap_medium-light_skin_tone 👲🏼\nman_with_chinese_cap_medium_skin_tone 👲🏽",
    "man_with_gua_pi_mao 👲\nman_with_probing_cane 👨‍🦯\nman_with_turban 👳\nman_zombie 🧟‍♂️\nmango 🥭",
    "mans_shoe 👞\nmantelpiece_clock 🕰\nmanual_wheelchair 🦽\nman’s_shoe 👞\nmap_of_japan 🗾\nmaple_leaf 🍁",
    "marshall_islands 🇲🇭\nmartial_arts_uniform 🥋\nmartinique 🇲🇶\nmask 😷\nmassage 💆\nmate 🧉",
    "mauritania 🇲🇷\nmauritius 🇲🇺\nmayotte 🇾🇹\nmeat_on_bone 🍖\nmechanical_arm 🦾\nmechanical_leg 🦿",
    "medical_symbol ⚕\nmedium_dark_skin_tone 🏾\nmedium_light_skin_tone 🏼\nmedium_skin_tone 🏽\nmega 📣",
    "megaphone 📣\nmelon 🍈\nmemo 📝\nmen_with_bunny_ears 👯‍♂️\nmen_wrestling 🤼‍♂️\nmenorah 🕎",
    "menorah_with_nine_branches 🕎\nmens 🚹\nmen’s_room 🚹\nmermaid 🧜‍♀️\nmermaid_dark_skin_tone 🧜🏿‍♀️",
    "mermaid_light_skin_tone 🧜🏻‍♀️\nmermaid_medium-dark_skin_tone 🧜🏾‍♀️",
    "mermaid_medium-light_skin_tone 🧜🏼‍♀️\nmermaid_medium_skin_tone 🧜🏽‍♀️\nmerman 🧜‍♂️",
    "merman_dark_skin_tone 🧜🏿‍♂️\nmerman_light_skin_tone 🧜🏻‍♂️\nmerman_medium-dark_skin_tone 🧜🏾‍♂️",
    "merman_medium-light_skin_tone 🧜🏼‍♂️\nmerman_medium_skin_tone 🧜🏽‍♂️\nmerperson 🧜",
    "merperson_dark_skin_tone 🧜🏿\nmerperson_light_skin_tone 🧜🏻\nmerperson_medium-dark_skin_tone 🧜🏾",
    "merperson_medium-light_skin_tone 🧜🏼\nmerperson_medium_skin_tone 🧜🏽\nmetro 🚇\nmexico 🇲🇽\nmicrobe 🦠",
    "micronesia 🇫🇲\nmicrophone 🎤\nmicroscope 🔬\nmiddle_finger 🖕\nmiddle_finger_dark_skin_tone 🖕🏿",
    "middle_finger_light_skin_tone 🖕🏻\nmiddle_finger_medium-dark_skin_tone 🖕🏾",
    "middle_finger_medium-light_skin_tone 🖕🏼\nmiddle_finger_medium_skin_tone 🖕🏽\nmilitary_medal 🎖",
    "milky_way 🌌\nminibus 🚐\nminidisc 💽\nmoai 🗿\nmobile_phone 📱\nmobile_phone_off 📴",
    "mobile_phone_with_arrow 📲\nmoldova 🇲🇩\nmonaco 🇲🇨\nmoney-mouth_face 🤑\nmoney__mouth_face 🤑",
    "money_bag 💰\nmoney_with_wings 💸\nmoneybag 💰\nmongolia 🇲🇳\nmonkey 🐒\nmonkey_face 🐵\nmonorail 🚝",
    "montenegro 🇲🇪\nmontserrat 🇲🇸\nmoon 🌔\nmoon_cake 🥮\nmoon_viewing_ceremony 🎑\nmorocco 🇲🇦",
    "mortar_board 🎓\nmosque 🕌\nmosquito 🦟\nmotor_boat 🛥\nmotor_scooter 🛵\nmotorcycle 🏍",
    "motorized_wheelchair 🦼\nmotorway 🛣\nmount_fuji 🗻\nmountain ⛰\nmountain_bicyclist 🚵",
    "mountain_cableway 🚠\nmountain_railway 🚞\nmouse 🐭\nmouse2 🐁\nmouse_face 🐭\nmouth 👄\nmovie_camera 🎥",
    "moyai 🗿\nmozambique 🇲🇿\nmrs._claus 🤶\nmrs._claus_dark_skin_tone 🤶🏿\nmrs._claus_light_skin_tone 🤶🏻",
    "mrs._claus_medium-dark_skin_tone 🤶🏾\nmrs._claus_medium-light_skin_tone 🤶🏼",
    "mrs._claus_medium_skin_tone 🤶🏽\nmuscle 💪\nmushroom 🍄\nmusical_keyboard 🎹\nmusical_note 🎵",
    "musical_notes 🎶\nmusical_score 🎼\nmute 🔇\nmuted_speaker 🔇\nmyanmar_(burma) 🇲🇲"]

private def picturesN : List String := [
    "nail_care 💅\nnail_polish 💅\nnail_polish_dark_skin_tone 💅🏿\nnail_polish_light_skin_tone 💅🏻",
    "nail_polish_medium-dark_skin_tone 💅🏾\nnail_polish_medium-light_skin_tone 💅🏼",
    "nail_polish_medium_skin_tone 💅🏽\nname_badge 📛\nnamibia 🇳🇦\nnational_park 🏞\nnauru 🇳🇷",
    "nauseated_face 🤢\nnazar_amulet 🧿\nnecktie 👔\nnegative_squared_cross_mark ❎\nnepal 🇳🇵\nnerd_face 🤓",
    "netherlands 🇳🇱\nneutral_face 😐\nnew 🆕\nnew_button 🆕\nnew_caledonia 🇳🇨\nnew_moon 🌑\nnew_moon_face 🌚",
    "new_moon_with_face 🌚\nnew_zealand 🇳🇿\nnewspaper 📰\nnext_track_button ⏭\nng 🆖\nng_button 🆖",
    "nicaragua 🇳🇮\nniger 🇳🇪\nnigeria 🇳🇬\nnight_with_stars 🌃\nnine 9️⃣\nnine-thirty 🕤\nnine_o’clock 🕘",
    "niue 🇳🇺\nno_bell 🔕\nno_bicycles 🚳\nno_entry ⛔\nno_entry_sign 🚫\nno_good 🙅\nno_littering 🚯",
    "no_mobile_phones 📵\nno_mouth 😶\nno_one_under_eighteen 🔞\nno_pedestrians 🚷\nno_smoking 🚭",
    "non-potable_water 🚱\nnon__potable_water 🚱\nnorfolk_island 🇳🇫\nnorth_korea 🇰🇵",
    "northern_mariana_islands 🇲🇵\nnorway 🇳🇴\nnose 👃\nnose_dark_skin_tone 👃🏿\nnose_light_skin_tone 👃🏻",
    "nose_medium-dark_skin_tone 👃🏾\nnose_medium-light_skin_tone 👃🏼\nnose_medium_skin_tone 👃🏽",
    "notebook 📓\nnotebook_with_decorative_cover 📔\nnotes 🎶\nnut_and_bolt 🔩"]

private def picturesO : List String := [
    "o ⭕\no2 🅾\no_button_(blood_type) 🅾\nocean 🌊\noctopus 🐙\noden 🍢\noffice 🏢\noffice_building 🏢",
    "ogre 👹\noil_drum 🛢\nok 🆗\nok_button 🆗\nok_hand 👌\nok_hand_dark_skin_tone 👌🏿",
    "ok_hand_light_skin_tone 👌🏻\nok_hand_medium-dark_skin_tone 👌🏾\nok_hand_medium-light_skin_tone 👌🏼",
    "ok_hand_medium_skin_tone 👌🏽\nok_woman 🙆\nold_key 🗝\nold_man 👴\nold_man_dark_skin_tone 👴🏿",
    "old_man_light_skin_tone 👴🏻\nold_man_medium-dark_skin_tone 👴🏾\nold_man_medium-light_skin_tone 👴🏼",
    "old_man_medium_skin_tone 👴🏽\nold_woman 👵\nold_woman_dark_skin_tone 👵🏿",
    "old_woman_light_skin_tone 👵🏻\nold_woman_medium-dark_skin_tone 👵🏾",
    "old_woman_medium-light_skin_tone 👵🏼\nold_woman_medium_skin_tone 👵🏽\nolder_adult 🧓",
    "older_adult_dark_skin_tone 🧓🏿\nolder_adult_light_skin_tone 🧓🏻",
    "older_adult_medium-dark_skin_tone 🧓🏾\nolder_adult_medium-light_skin_tone 🧓🏼",
    "older_adult_medium_skin_tone 🧓🏽\nolder_man 👴\nolder_woman 👵\nom 🕉\nom_symbol 🕉\noman 🇴🇲\non 🔛",
    "on!_arrow 🔛\noncoming_automobile 🚘\noncoming_bus 🚍\noncoming_fist 👊",
    "oncoming_fist_dark_skin_tone 👊🏿\noncoming_fist_light_skin_tone 👊🏻",
    "oncoming_fist_medium-dark_skin_tone 👊🏾\noncoming_fist_medium-light_skin_tone 👊🏼",
    "oncoming_fist_medium_skin_tone 👊🏽\noncoming_police_car 🚔\noncoming_taxi 🚖\none 1️⃣",
    "one-piece_swimsuit 🩱\none-thirty 🕜\none_o’clock 🕐\nonion 🧅\nopen_book 📖\nopen_file_folder 📂",
    "open_hands 👐\nopen_hands_dark_skin_tone 👐🏿\nopen_hands_light_skin_tone 👐🏻",
    "open_hands_medium-dark_skin_tone 👐🏾\nopen_hands_medium-light_skin_tone 👐🏼",
    "open_hands_medium_skin_tone 👐🏽\nopen_mailbox_with_lowered_flag 📭\nopen_mailbox_with_raised_flag 📬",
    "open_mouth 😮\nophiuchus ⛎\noptical_disk 💿\norange_book 📙\norange_circle 🟠\norange_heart 🧡",
    "orange_square 🟧\norangutan 🦧\northodox_cross ☦\notter 🦦\noutbox_tray 📤\nowl 🦉\nox 🐂\noyster 🦪"]

private def picturesP : List String := [
    "p_button 🅿\npackage 📦\npage_facing_up 📄\npage_with_curl 📃\npager 📟\npaintbrush 🖌\npakistan 🇵🇰",
    "palau 🇵🇼\npalestinian_territories 🇵🇸\npalm_tree 🌴\npalms_up_together 🤲",
    "palms_up_together_dark_skin_tone 🤲🏿\npalms_up_together_light_skin_tone 🤲🏻",
    "palms_up_together_medium-dark_skin_tone 🤲🏾\npalms_up_together_medium-light_skin_tone 🤲🏼",
    "palms_up_together_medium_skin_tone 🤲🏽\npanama 🇵🇦\npancakes 🥞\npanda_face 🐼\npaperclip 📎",
    "papua_new_guinea 🇵🇬\nparaguay 🇵🇾\nparking 🅿\nparrot 🦜\npart_alternation_mark 〽\npartly_sunny ⛅",
    "party_popper 🎉\npartying_face 🥳\npassenger_ship 🛳\npassport_control 🛂\npause_button ⏸",
    "paw_prints 🐾\npeace_symbol ☮\npeach 🍑\npeacock 🦚\npeanuts 🥜\npear 🍐\npen 🖊\npencil 📝\npencil2 ✏",
    "penguin 🐧\npensive 😔\npensive_face 😔\npeople_holding_hands 🧑‍🤝‍🧑\npeople_with_bunny_ears 👯",
    "people_wrestling 🤼\nperforming_arts 🎭\npersevere 😣\npersevering_face 😣\nperson_biking 🚴",
    "person_biking_dark_skin_tone 🚴🏿\nperson_biking_light_skin_tone 🚴🏻",
    "person_biking_medium-dark_skin_tone 🚴🏾\nperson_biking_medium-light_skin_tone 🚴🏼",
    "person_biking_medium_skin_tone 🚴🏽\nperson_bouncing_ball ⛹\nperson_bouncing_ball_dark_skin_tone ⛹🏿",
    "person_bouncing_ball_light_skin_tone ⛹🏻\nperson_bouncing_ball_medium-dark_skin_tone ⛹🏾",
    "person_bouncing_ball_medium-light_skin_tone ⛹🏼\nperson_bouncing_ball_medium_skin_tone ⛹🏽",
    "person_bowing 🙇\nperson_bowing_dark_skin_tone 🙇🏿\nperson_bowing_light_skin_tone 🙇🏻",
    "person_bowing_medium-dark_skin_tone 🙇🏾\nperson_bowing_medium-light_skin_tone 🙇🏼",
    "person_bowing_medium_skin_tone 🙇🏽\nperson_cartwheeling 🤸\nperson_cartwheeling_dark_skin_tone 🤸🏿",
    "person_cartwheeling_light_skin_tone 🤸🏻\nperson_cartwheeling_medium-dark_skin_tone 🤸🏾",
    "person_cartwheeling_medium-light_skin_tone 🤸🏼\nperson_cartwheeling_medium_skin_tone 🤸🏽",
    "person_climbing 🧗\nperson_climbing_dark_skin_tone 🧗🏿\nperson_climbing_light_skin_tone 🧗🏻",
    "person_climbing_medium-dark_skin_tone 🧗🏾\nperson_climbing_medium-light_skin_tone 🧗🏼",
    "person_climbing_medium_skin_tone 🧗🏽\nperson_facepalming 🤦\nperson_facepalming_dark_skin_tone 🤦🏿",
    "person_facepalming_light_skin_tone 🤦🏻\nperson_facepalming_medium-dark_skin_tone 🤦🏾",
    "person_facepalming_medium-light_skin_tone 🤦🏼\nperson_facepalming_medium_skin_tone 🤦🏽",
    "person_fencing 🤺\nperson_frowning 🙍\nperson_frowning_dark_skin_tone 🙍🏿",
    "person_frowning_light_skin_tone 🙍🏻\nperson_frowning_medium-dark_skin_tone 🙍🏾",
    "person_frowning_medium-light_skin_tone 🙍🏼\nperson_frowning_medium_skin_tone 🙍🏽",
    "person_gesturing_no 🙅\nperson_gesturing_no_dark_skin_tone 🙅🏿",
    "person_gesturing_no_light_skin_tone 🙅🏻\nperson_gesturing_no_medium-dark_skin_tone 🙅🏾",
    "person_gesturing_no_medium-light_skin_tone 🙅🏼\nperson_gesturing_no_medium_skin_tone 🙅🏽",
    "person_gesturing_ok 🙆\nperson_gesturing_ok_dark_skin_tone 🙆🏿",
    "person_gesturing_ok_light_skin_tone 🙆🏻\nperson_gesturing_ok_medium-dark_skin_tone 🙆🏾",
    "person_gesturing_ok_medium-light_skin_tone 🙆🏼\nperson_gesturing_ok_medium_skin_tone 🙆🏽",
    "person_getting_haircut 💇\nperson_getting_haircut_dark_skin_tone 💇🏿",
    "person_getting_haircut_light_skin_tone 💇🏻\nperson_getting_haircut_medium-dark_skin_tone 💇🏾",
    "person_getting_haircut_medium-light_skin_tone 💇🏼\nperson_getting_haircut_medium_skin_tone 💇🏽",
    "person_getting_massage 💆\nperson_getting_massage_dark_skin_tone 💆🏿",
    "person_getting_massage_light_skin_tone 💆🏻\nperson_getting_massage_medium-dark_skin_tone 💆🏾",
    "person_getting_massage_medium-light_skin_tone 💆🏼\nperson_getting_massage_medium_skin_tone 💆🏽",
    "person_golfing 🏌\nperson_golfing_dark_skin_tone 🏌🏿\nperson_golfing_light_skin_tone 🏌🏻",
    "person_golfing_medium-dark_skin_tone 🏌🏾\nperson_golfing_medium-light_skin_tone 🏌🏼",
    "person_golfing_medium_skin_tone 🏌🏽\nperson_in_bed 🛌\nperson_in_bed_dark_skin_tone 🛌🏿",
    "person_in_bed_light_skin_tone 🛌🏻\nperson_in_bed_medium-dark_skin_tone 🛌🏾",
    "person_in_bed_medium-light_skin_tone 🛌🏼\nperson_in_bed_medium_skin_tone 🛌🏽",
    "person_in_lotus_position 🧘\nperson_in_lotus_position_dark_skin_tone 🧘🏿",
    "person_in_lotus_position_light_skin_tone 🧘🏻\nperson_in_lotus_position_medium-dark_skin_tone 🧘🏾",
    "person_in_lotus_position_medium-light_skin_tone 🧘🏼\nperson_in_lotus_position_medium_skin_tone 🧘🏽",
    "person_in_steamy_room 🧖\nperson_in_steamy_room_dark_skin_tone 🧖🏿",
    "person_in_steamy_room_light_skin_tone 🧖🏻\nperson_in_steamy_room_medium-dark_skin_tone 🧖🏾",
    "person_in_steamy_room_medium-light_skin_tone 🧖🏼\nperson_in_steamy_room_medium_skin_tone 🧖🏽",
    "person_juggling 🤹\nperson_juggling_dark_skin_tone 🤹🏿\nperson_juggling_light_skin_tone 🤹🏻",
    "person_juggling_medium-dark_skin_tone 🤹🏾\nperson_juggling_medium-light_skin_tone 🤹🏼",
    "person_juggling_medium_skin_tone 🤹🏽\nperson_kneeling 🧎\nperson_lifting_weights 🏋",
    "person_lifting_weights_dark_skin_tone 🏋🏿\nperson_lifting_weights_light_skin_tone 🏋🏻",
    "person_lifting_weights_medium-dark_skin_tone 🏋🏾\nperson_lifting_weights_medium-light_skin_tone 🏋🏼",
    "person_lifting_weights_medium_skin_tone 🏋🏽\nperson_mountain_biking 🚵",
    "person_mountain_biking_dark_skin_tone 🚵🏿\nperson_mountain_biking_light_skin_tone 🚵🏻",
    "person_mountain_biking_medium-dark_skin_tone 🚵🏾\nperson_mountain_biking_medium-light_skin_tone 🚵🏼",
    "person_mountain_biking_medium_skin_tone 🚵🏽\nperson_playing_handball 🤾",
    "person_playing_handball_dark_skin_tone 🤾🏿\nperson_playing_handball_light_skin_tone 🤾🏻",
    "person_playing_handball_medium-dark_skin_tone 🤾🏾",
    "person_playing_handball_medium-light_skin_tone 🤾🏼\nperson_playing_handball_medium_skin_tone 🤾🏽",
    "person_playing_water_polo 🤽\nperson_playing_water_polo_dark_skin_tone 🤽🏿",
    "person_playing_water_polo_light_skin_tone 🤽🏻\nperson_playing_water_polo_medium-dark_skin_tone 🤽🏾",
    "person_playing_water_polo_medium-light_skin_tone 🤽🏼\nperson_playing_water_polo_medium_skin_tone 🤽🏽",
    "person_pouting 🙎\nperson_pouting_dark_skin_tone 🙎🏿\nperson_pouting_light_skin_tone 🙎🏻",
    "person_pouting_medium-dark_skin_tone 🙎🏾\nperson_pouting_medium-light_skin_tone 🙎🏼",
    "person_pouting_medium_skin_tone 🙎🏽\nperson_raising_hand 🙋\nperson_raising_hand_dark_skin_tone 🙋🏿",
    "person_raising_hand_light_skin_tone 🙋🏻\nperson_raising_hand_medium-dark_skin_tone 🙋🏾",
    "person_raising_hand_medium-light_skin_tone 🙋🏼\nperson_raising_hand_medium_skin_tone 🙋🏽",
    "person_rowing_boat 🚣\nperson_rowing_boat_dark_skin_tone 🚣🏿\nperson_rowing_boat_light_skin_tone 🚣🏻",
    "person_rowing_boat_medium-dark_skin_tone 🚣🏾\nperson_rowing_boat_medium-light_skin_tone 🚣🏼",
    "person_rowing_boat_medium_skin_tone 🚣🏽\nperson_running 🏃\nperson_running_dark_skin_tone 🏃🏿",
    "person_running_light_skin_tone 🏃🏻\nperson_running_medium-dark_skin_tone 🏃🏾",
    "person_running_medium-light_skin_tone 🏃🏼\nperson_running_medium_skin_tone 🏃🏽\nperson_shrugging 🤷",
    "person_shrugging_dark_skin_tone 🤷🏿\nperson_shrugging_light_skin_tone 🤷🏻",
    "person_shrugging_medium-dark_skin_tone 🤷🏾\nperson_shrugging_medium-light_skin_tone 🤷🏼",
    "person_shrugging_medium_skin_tone 🤷🏽\nperson_standing 🧍\nperson_surfing 🏄",
    "person_surfing_dark_skin_tone 🏄🏿\nperson_surfing_light_skin_tone 🏄🏻",
    "person_surfing_medium-dark_skin_tone 🏄🏾\nperson_surfing_medium-light_skin_tone 🏄🏼",
    "person_surfing_medium_skin_tone 🏄🏽\nperson_swimming 🏊\nperson_swimming_dark_skin_tone 🏊🏿",
    "person_swimming_light_skin_tone 🏊🏻\nperson_swimming_medium-dark_skin_tone 🏊🏾",
    "person_swimming_medium-light_skin_tone 🏊🏼\nperson_swimming_medium_skin_tone 🏊🏽",
    "person_taking_bath 🛀\nperson_taking_bath_dark_skin_tone 🛀🏿\nperson_taking_bath_light_skin_tone 🛀🏻",
    "person_taking_bath_medium-dark_skin_tone 🛀🏾\nperson_taking_bath_medium-light_skin_tone 🛀🏼",
    "person_taking_bath_medium_skin_tone 🛀🏽\nperson_tipping_hand 💁",
    "person_tipping_hand_dark_skin_tone 💁🏿\nperson_tipping_hand_light_skin_tone 💁🏻",
    "person_tipping_hand_medium-dark_skin_tone 💁🏾\nperson_tipping_hand_medium-light_skin_tone 💁🏼",
    "person_tipping_hand_medium_skin_tone 💁🏽\nperson_walking 🚶\nperson_walking_dark_skin_tone 🚶🏿",
    "person_walking_light_skin_tone 🚶🏻\nperson_walking_medium-dark_skin_tone 🚶🏾",
    "person_walking_medium-light_skin_tone 🚶🏼\nperson_walking_medium_skin_tone 🚶🏽",
    "person_wearing_turban 👳\nperson_wearing_turban_dark_skin_tone 👳🏿",
    "person_wearing_turban_light_skin_tone 👳🏻\nperson_wearing_turban_medium-dark_skin_tone 👳🏾",
    "person_wearing_turban_medium-light_skin_tone 👳🏼\nperson_wearing_turban_medium_skin_tone 👳🏽",
    "person_with_ball ⛹\nperson_with_blond_hair 👱\nperson_with_pouting_face 🙎\nperu 🇵🇪\npetri_dish 🧫",
    "philippines 🇵🇭\nphone ☎\npick ⛏\npie 🥧\npig 🐷\npig2 🐖\npig_face 🐷\npig_nose 🐽\npile_of_poo 💩",
    "pill 💊\npinching_hand 🤏\npine_decoration 🎍\npineapple 🍍\nping_pong 🏓\npirate_flag 🏴‍☠️\npisces ♓",
    "pistol 🔫\npitcairn_islands 🇵🇳\npizza 🍕\nplace_of_worship 🛐\nplay_button ▶\nplay_or_pause_button ⏯",
    "pleading_face 🥺\npoint_down 👇\npoint_left 👈\npoint_right 👉\npoint_up ☝\npoint_up_2 👆\npoland 🇵🇱",
    "police_car 🚓\npolice_car_light 🚨\npolice_officer 👮\npolice_officer_dark_skin_tone 👮🏿",
    "police_officer_light_skin_tone 👮🏻\npolice_officer_medium-dark_skin_tone 👮🏾",
    "police_officer_medium-light_skin_tone 👮🏼\npolice_officer_medium_skin_tone 👮🏽\npoodle 🐩",
    "pool_8_ball 🎱\npoop 💩\npopcorn 🍿\nportugal 🇵🇹\npost_office 🏣\npostal_horn 📯\npostbox 📮",
    "pot_of_food 🍲\npotable_water 🚰\npotato 🥔\npouch 👝\npoultry_leg 🍗\npound 💷\npound_banknote 💷",
    "pouting_cat 😾\npouting_cat_face 😾\npouting_face 😡\npray 🙏\nprayer_beads 📿\npregnant_woman 🤰",
    "pregnant_woman_dark_skin_tone 🤰🏿\npregnant_woman_light_skin_tone 🤰🏻",
    "pregnant_woman_medium-dark_skin_tone 🤰🏾\npregnant_woman_medium-light_skin_tone 🤰🏼",
    "pregnant_woman_medium_skin_tone 🤰🏽\npretzel 🥨\nprince 🤴\nprince_dark_skin_tone 🤴🏿",
    "prince_light_skin_tone 🤴🏻\nprince_medium-dark_skin_tone 🤴🏾\nprince_medium-light_skin_tone 🤴🏼",
    "prince_medium_skin_tone 🤴🏽\nprincess 👸\nprincess_dark_skin_tone 👸🏿\nprincess_light_skin_tone 👸🏻",
    "princess_medium-dark_skin_tone 👸🏾\nprincess_medium-light_skin_tone 👸🏼",
    "princess_medium_skin_tone 👸🏽\nprinter 🖨\nprobing_cane 🦯\nprohibited 🚫\npuerto_rico 🇵🇷\npunch 👊",
    "purple_circle 🟣\npurple_heart 💜\npurple_square 🟪\npurse 👛\npushpin 📌\nput_litter_in_its_place 🚮"]

private def picturesQ : List String := [
    "qatar 🇶🇦\nquestion ❓\nquestion_mark ❓"]

private def picturesR : List String := [
    "rabbit 🐰\nrabbit2 🐇\nrabbit_face 🐰\nraccoon 🦝\nracehorse 🐎\nracing_car 🏎\nracing_motorcycle 🏍",
    "radio 📻\nradio_button 🔘\nradioactive ☢\nradioactive_sign ☢\nrage 😡\nrailway_car 🚃\nrailway_track 🛤",
    "rainbow 🌈\nrainbow_flag 🏳️‍🌈\nraised_back_of_hand 🤚\nraised_back_of_hand_dark_skin_tone 🤚🏿",
    "raised_back_of_hand_light_skin_tone 🤚🏻\nraised_back_of_hand_medium-dark_skin_tone 🤚🏾",
    "raised_back_of_hand_medium-light_skin_tone 🤚🏼\nraised_back_of_hand_medium_skin_tone 🤚🏽",
    "raised_fist ✊\nraised_fist_dark_skin_tone ✊🏿\nraised_fist_light_skin_tone ✊🏻",
    "raised_fist_medium-dark_skin_tone ✊🏾\nraised_fist_medium-light_skin_tone ✊🏼",
    "raised_fist_medium_skin_tone ✊🏽\nraised_hand ✋\nraised_hand_dark_skin_tone ✋🏿",
    "raised_hand_light_skin_tone ✋🏻\nraised_hand_medium-dark_skin_tone ✋🏾",
    "raised_hand_medium-light_skin_tone ✋🏼\nraised_hand_medium_skin_tone ✋🏽",
    "raised_hand_with_fingers_splayed 🖐\nraised_hand_with_part_between_middle_and_ring_fingers 🖖",
    "raised_hands 🙌\nraising_hand 🙋\nraising_hands 🙌\nraising_hands_dark_skin_tone 🙌🏿",
    "raising_hands_light_skin_tone 🙌🏻\nraising_hands_medium-dark_skin_tone 🙌🏾",
    "raising_hands_medium-light_skin_tone 🙌🏼\nraising_hands_medium_skin_tone 🙌🏽\nram 🐏\nramen 🍜\nrat 🐀",
    "razor 🪒\nreceipt 🧾\nrecord_button ⏺\nrecycle ♻\nrecycling_symbol ♻\nred-haired_man 👨‍🦰",
    "red-haired_woman 👩‍🦰\nred_apple 🍎\nred_car 🚗\nred_circle 🔴\nred_envelope 🧧\nred_hair 🦰",
    "red_heart ❤\nred_paper_lantern 🏮\nred_square 🟥\nred_triangle_pointed_down 🔻",
    "red_triangle_pointed_up 🔺\nregional_indicator_a 🇦\nregional_indicator_b 🇧\nregional_indicator_c 🇨",
    "regional_indicator_d 🇩\nregional_indicator_e 🇪\nregional_indicator_f 🇫\nregional_indicator_g 🇬",
    "regional_indicator_h 🇭\nregional_indicator_i 🇮\nregional_indicator_j 🇯\nregional_indicator_k 🇰",
    "regional_indicator_l 🇱\nregional_indicator_m 🇲\nregional_indicator_n 🇳\nregional_indicator_o 🇴",
    "regional_indicator_p 🇵\nregional_indicator_q 🇶\nregional_indicator_r 🇷\nregional_indicator_s 🇸",
    "regional_indicator_symbol_letter_a 🇦\nregional_indicator_symbol_letter_b 🇧",
    "regional_indicator_symbol_letter_c 🇨\nregional_indicator_symbol_letter_d 🇩",
    "regional_indicator_symbol_letter_e 🇪\nregional_indicator_symbol_letter_f 🇫",
    "regional_indicator_symbol_letter_g 🇬\nregional_indicator_symbol_letter_h 🇭",
    "regional_indicator_symbol_letter_i 🇮\nregional_indicator_symbol_letter_j 🇯",
    "regional_indicator_symbol_letter_k 🇰\nregional_indicator_symbol_letter_l 🇱",
    "regional_indicator_symbol_letter_m 🇲\nregional_indicator_symbol_letter_n 🇳",
    "regional_indicator_symbol_letter_o 🇴\nregional_indicator_symbol_letter_p 🇵",
    "regional_indicator_symbol_letter_q 🇶\nregional_indicator_symbol_letter_r 🇷",
    "regional_indicator_symbol_letter_s 🇸\nregional_indicator_symbol_letter_t 🇹",
    "regional_indicator_symbol_letter_u 🇺\nregional_indicator_symbol_letter_v 🇻",
    "regional_indicator_symbol_letter_w 🇼\nregional_indicator_symbol_letter_x 🇽",
    "regional_indicator_symbol_letter_y 🇾\nregional_indicator_symbol_letter_z 🇿\nregional_indicator_t 🇹",
    "regional_indicator_u 🇺\nregional_indicator_v 🇻\nregional_indicator_w 🇼\nregional_indicator_x 🇽",
    "regional_indicator_y 🇾\nregional_indicator_z 🇿\nregistered ®\nrelaxed ☺\nrelieved 😌",
    "relieved_face 😌\nreminder_ribbon 🎗\nrepeat 🔁\nrepeat_button 🔁\nrepeat_one 🔂",
    "repeat_single_button 🔂\nrescue_worker’s_helmet ⛑\nrestroom 🚻\nreverse_button ◀",
    "reversed_hand_with_middle_finger_extended 🖕\nrevolving_hearts 💞\nrewind ⏪\nrhinoceros 🦏\nribbon 🎀",
    "rice 🍚\nrice_ball 🍙\nrice_cracker 🍘\nrice_scene 🎑\nright-facing_fist 🤜",
    "right-facing_fist_dark_skin_tone 🤜🏿\nright-facing_fist_light_skin_tone 🤜🏻",
    "right-facing_fist_medium-dark_skin_tone 🤜🏾\nright-facing_fist_medium-light_skin_tone 🤜🏼",
    "right-facing_fist_medium_skin_tone 🤜🏽\nright_anger_bubble 🗯\nright_arrow ➡",
    "right_arrow_curving_down ⤵\nright_arrow_curving_left ↩\nright_arrow_curving_up ⤴\nring 💍",
    "ringed_planet 🪐\nroasted_sweet_potato 🍠\nrobot 🤖\nrobot_face 🤖\nrocket 🚀\nroll_of_paper 🧻",
    "rolled-up_newspaper 🗞\nrolled__up_newspaper 🗞\nroller_coaster 🎢\nrolling_on_the_floor_laughing 🤣",
    "romania 🇷🇴\nrooster 🐓\nrose 🌹\nrosette 🏵\nrotating_light 🚨\nround_pushpin 📍\nrowboat 🚣",
    "rugby_football 🏉\nrunner 🏃\nrunning 🏃\nrunning_shirt 🎽\nrunning_shirt_with_sash 🎽\nrunning_shoe 👟",
    "russia 🇷🇺\nrwanda 🇷🇼\nréunion 🇷🇪"]

private def picturesS : List String := [
    "sa 🈂\nsad_but_relieved_face 😥\nsafety_pin 🧷\nsafety_vest 🦺\nsagittarius ♐\nsailboat ⛵\nsake 🍶",
    "salt 🧂\nsamoa 🇼🇸\nsan_marino 🇸🇲\nsandal 👡\nsandwich 🥪\nsanta 🎅\nsanta_claus 🎅",
    "santa_claus_dark_skin_tone 🎅🏿\nsanta_claus_light_skin_tone 🎅🏻",
    "santa_claus_medium-dark_skin_tone 🎅🏾\nsanta_claus_medium-light_skin_tone 🎅🏼",
    "santa_claus_medium_skin_tone 🎅🏽\nsari 🥻\nsatellite 📡\nsatellite_antenna 📡\nsatisfied 😆",
    "saudi_arabia 🇸🇦\nsauropod 🦕\nsaxophone 🎷\nscales ⚖\nscarf 🧣\nschool 🏫\nschool_backpack 🎒",
    "school_satchel 🎒\nscissors ✂\nscorpio ♏\nscorpion 🦂\nscorpius ♏\nscotland 🏴󠁧󠁢󠁳󠁣󠁴󠁿\nscream 😱",
    "scream_cat 🙀\nscroll 📜\nseat 💺\nsecret ㊙\nsee-no-evil_monkey 🙈\nsee_no_evil 🙈\nseedling 🌱",
    "selfie 🤳\nselfie_dark_skin_tone 🤳🏿\nselfie_light_skin_tone 🤳🏻\nselfie_medium-dark_skin_tone 🤳🏾",
    "selfie_medium-light_skin_tone 🤳🏼\nselfie_medium_skin_tone 🤳🏽\nsenegal 🇸🇳\nserbia 🇷🇸",
    "service_dog 🐕‍🦺\nseven 7️⃣\nseven-thirty 🕢\nseven_o’clock 🕖\nseychelles 🇸🇨\nshallow_pan_of_food 🥘",
    "shamrock ☘\nshark 🦈\nshaved_ice 🍧\nsheaf_of_rice 🌾\nsheep 🐑\nshell 🐚\nshield 🛡\nshinto_shrine ⛩",
    "ship 🚢\nshirt 👕\nshit 💩\nshoe 👞\nshooting_star 🌠\nshopping_bags 🛍\nshopping_cart 🛒\nshortcake 🍰",
    "shorts 🩳\nshower 🚿\nshrimp 🦐\nshuffle_tracks_button 🔀\nshushing_face 🤫\nsierra_leone 🇸🇱",
    "sign_of_the_horns 🤘\nsign_of_the_horns_dark_skin_tone 🤘🏿\nsign_of_the_horns_light_skin_tone 🤘🏻",
    "sign_of_the_horns_medium-dark_skin_tone 🤘🏾\nsign_of_the_horns_medium-light_skin_tone 🤘🏼",
    "sign_of_the_horns_medium_skin_tone 🤘🏽\nsignal_strength 📶\nsingapore 🇸🇬\nsint_maarten 🇸🇽\nsix 6️⃣",
    "six-thirty 🕡\nsix_o’clock 🕕\nsix_pointed_star 🔯\nskateboard 🛹\nski 🎿\nskier ⛷\nskis 🎿\nskull 💀",
    "skull_and_crossbones ☠\nskunk 🦨\nsled 🛷\nsleeping 😴\nsleeping_accommodation 🛌\nsleeping_face 😴",
    "sleepy 😪\nsleepy_face 😪\nsleuth_or_spy 🕵\nslightly_frowning_face 🙁\nslightly_smiling_face 🙂",
    "slot_machine 🎰\nsloth 🦥\nslovakia 🇸🇰\nslovenia 🇸🇮\nsmall_airplane 🛩\nsmall_blue_diamond 🔹",
    "small_orange_diamond 🔸\nsmall_red_triangle 🔺\nsmall_red_triangle_down 🔻\nsmile 😄\nsmile_cat 😸",
    "smiley 😃\nsmiley_cat 😺\nsmiling_cat_face_with_heart-eyes 😻\nsmiling_face ☺",
    "smiling_face_with_3_hearts 🥰\nsmiling_face_with_halo 😇\nsmiling_face_with_heart-eyes 😍",
    "smiling_face_with_horns 😈\nsmiling_face_with_smiling_eyes 😊\nsmiling_face_with_sunglasses 😎",
    "smiling_imp 😈\nsmirk 😏\nsmirk_cat 😼\nsmirking_face 😏\nsmoking 🚬\nsnail 🐌\nsnake 🐍\nsneezing_face 🤧",
    "snow-capped_mountain 🏔\nsnow_capped_mountain 🏔\nsnowboarder 🏂\nsnowboarder_dark_skin_tone 🏂🏿",
    "snowboarder_light_skin_tone 🏂🏻\nsnowboarder_medium-dark_skin_tone 🏂🏾",
    "snowboarder_medium-light_skin_tone 🏂🏼\nsnowboarder_medium_skin_tone 🏂🏽\nsnowflake ❄\nsnowman ☃",
    "snowman_without_snow ⛄\nsoap 🧼\nsob 😭\nsoccer ⚽\nsoccer_ball ⚽\nsocks 🧦\nsoft_ice_cream 🍦",
    "softball 🥎\nsolomon_islands 🇸🇧\nsomalia 🇸🇴\nsoon 🔜\nsoon_arrow 🔜\nsos 🆘\nsos_button 🆘\nsound 🔉",
    "south_africa 🇿🇦\nsouth_georgia_&_south_sandwich_islands 🇬🇸\nsouth_korea 🇰🇷\nsouth_sudan 🇸🇸",
    "space_invader 👾\nspade_suit ♠\nspades ♠\nspaghetti 🍝\nspain 🇪🇸\nsparkle ❇\nsparkler 🎇\nsparkles ✨",
    "sparkling_heart 💖\nspeak-no-evil_monkey 🙊\nspeak_no_evil 🙊\nspeaker 🔈\nspeaker_high_volume 🔊",
    "speaker_low_volume 🔈\nspeaker_medium_volume 🔉\nspeaking_head 🗣\nspeaking_head_in_silhouette 🗣",
    "speech_balloon 💬\nspeedboat 🚤\nspider 🕷\nspider_web 🕸\nspiral_calendar 🗓\nspiral_calendar_pad 🗓",
    "spiral_note_pad 🗒\nspiral_notepad 🗒\nspiral_shell 🐚\nsponge 🧽\nspoon 🥄\nsport_utility_vehicle 🚙",
    "sports_medal 🏅\nspouting_whale 🐳\nsquid 🦑\nsquinting_face_with_tongue 😝\nsri_lanka 🇱🇰",
    "st._barthélemy 🇧🇱\nst._helena 🇸🇭\nst._kitts_&_nevis 🇰🇳\nst._lucia 🇱🇨\nst._martin 🇲🇫",
    "st._pierre_&_miquelon 🇵🇲\nst._vincent_&_grenadines 🇻🇨\nstadium 🏟\nstar ⭐\nstar-struck 🤩\nstar2 🌟",
    "star_and_crescent ☪\nstar_of_david ✡\nstars 🌠\nstation 🚉\nstatue_of_liberty 🗽\nsteam_locomotive 🚂",
    "steaming_bowl 🍜\nstethoscope 🩺\nstew 🍲\nstop_button ⏹\nstop_sign 🛑\nstopwatch ⏱\nstraight_ruler 📏",
    "strawberry 🍓\nstuck_out_tongue 😛\nstuck_out_tongue_closed_eyes 😝\nstuck_out_tongue_winking_eye 😜",
    "studio_microphone 🎙\nstuffed_flatbread 🥙\nsudan 🇸🇩\nsun ☀\nsun_behind_cloud ⛅",
    "sun_behind_large_cloud 🌥\nsun_behind_rain_cloud 🌦\nsun_behind_small_cloud 🌤\nsun_with_face 🌞",
    "sunflower 🌻\nsunglasses 😎\nsunny ☀\nsunrise 🌅\nsunrise_over_mountains 🌄\nsunset 🌇\nsuperhero 🦸",
    "supervillain 🦹\nsurfer 🏄\nsuriname 🇸🇷\nsushi 🍣\nsuspension_railway 🚟\nsvalbard_&_jan_mayen 🇸🇯",
    "swan 🦢\nswaziland 🇸🇿\nsweat 😓\nsweat_droplets 💦\nsweat_drops 💦\nsweat_smile 😅\nsweden 🇸🇪",
    "sweet_potato 🍠\nswimmer 🏊\nswitzerland 🇨🇭\nsymbols 🔣\nsynagogue 🕍\nsyria 🇸🇾\nsyringe 💉",
    "são_tomé_&_príncipe 🇸🇹"]

private def picturesT : List String := [
    "t-rex 🦖\nt-shirt 👕\ntable_tennis_paddle_and_ball 🏓\ntaco 🌮\ntada 🎉\ntaiwan 🇹🇼\ntajikistan 🇹🇯",
    "takeout_box 🥡\ntanabata_tree 🎋\ntangerine 🍊\ntanzania 🇹🇿\ntaurus ♉\ntaxi 🚕\ntea 🍵",
    "teacup_without_handle 🍵\ntear-off_calendar 📆\nteddy_bear 🧸\ntelephone ☎\ntelephone_receiver 📞",
    "telescope 🔭\ntelevision 📺\nten 🔟\nten-thirty 🕥\nten_o’clock 🕙\ntennis 🎾\ntent ⛺\ntest_tube 🧪",
    "thailand 🇹🇭\nthermometer 🌡\nthinking_face 🤔\nthought_balloon 💭\nthread 🧵\nthree 3️⃣",
    "three-thirty 🕞\nthree_button_mouse 🖱\nthree_o’clock 🕒\nthumbs_down 👎",
    "thumbs_down_dark_skin_tone 👎🏿\nthumbs_down_light_skin_tone 👎🏻",
    "thumbs_down_medium-dark_skin_tone 👎🏾\nthumbs_down_medium-light_skin_tone 👎🏼",
    "thumbs_down_medium_skin_tone 👎🏽\nthumbs_up 👍\nthumbs_up_dark_skin_tone 👍🏿",
    "thumbs_up_light_skin_tone 👍🏻\nthumbs_up_medium-dark_skin_tone 👍🏾",
    "thumbs_up_medium-light_skin_tone 👍🏼\nthumbs_up_medium_skin_tone 👍🏽\nthumbsdown 👎\nthumbsup 👍",
    "thunder_cloud_and_rain ⛈\nticket 🎫\ntiger 🐯\ntiger2 🐅\ntiger_face 🐯\ntimer_clock ⏲\ntimor-leste 🇹🇱",
    "tired_face 😫\ntm ™\ntogo 🇹🇬\ntoilet 🚽\ntokelau 🇹🇰\ntokyo_tower 🗼\ntomato 🍅\ntonga 🇹🇴\ntongue 👅",
    "toolbox 🧰\ntooth 🦷\ntop 🔝\ntop_arrow 🔝\ntop_hat 🎩\ntophat 🎩\ntornado 🌪\ntrackball 🖲\ntractor 🚜",
    "trade_mark ™\ntraffic_light 🚥\ntrain 🚋\ntrain2 🚆\ntram 🚊\ntram_car 🚋\ntriangular_flag 🚩",
    "triangular_flag_on_post 🚩\ntriangular_ruler 📐\ntrident 🔱\ntrident_emblem 🔱\ntrinidad_&_tobago 🇹🇹",
    "tristan_da_cunha 🇹🇦\ntriumph 😤\ntrolleybus 🚎\ntrophy 🏆\ntropical_drink 🍹\ntropical_fish 🐠\ntruck 🚚",
    "trumpet 🎺\ntshirt 👕\ntulip 🌷\ntumbler_glass 🥃\ntunisia 🇹🇳\nturkey 🦃\nturkmenistan 🇹🇲",
    "turks_&_caicos_islands 🇹🇨\nturtle 🐢\ntuvalu 🇹🇻\ntv 📺\ntwelve-thirty 🕧\ntwelve_o’clock 🕛",
    "twisted_rightwards_arrows 🔀\ntwo 2️⃣\ntwo-hump_camel 🐫\ntwo-thirty 🕝\ntwo_hearts 💕",
    "two_men_holding_hands 👬\ntwo_o’clock 🕑\ntwo_women_holding_hands 👭"]

private def picturesU : List String := [
    "u.s._outlying_islands 🇺🇲\nu.s._virgin_islands 🇻🇮\nu5272 🈹\nu5408 🈴\nu55b6 🈺\nu6307 🈯\nu6708 🈷",
    "u6709 🈶\nu6e80 🈵\nu7121 🈚\nu7533 🈸\nu7981 🈲\nu7a7a 🈳\nuganda 🇺🇬\nukraine 🇺🇦\numbrella ☂",
    "umbrella_on_ground ⛱\numbrella_with_rain_drops ☔\nunamused 😒\nunamused_face 😒\nunderage 🔞",
    "unicorn_face 🦄\nunited_arab_emirates 🇦🇪\nunited_kingdom 🇬🇧\nunited_nations 🇺🇳\nunited_states 🇺🇸",
    "unlock 🔓\nunlocked 🔓\nup 🆙\nup!_button 🆙\nup-down_arrow ↕\nup-left_arrow ↖\nup-right_arrow ↗",
    "up_arrow ⬆\nupside-down_face 🙃\nupside__down_face 🙃\nupwards_button 🔼\nuruguay 🇺🇾\nuzbekistan 🇺🇿"]

private def picturesV : List String := [
    "v ✌\nvampire 🧛\nvampire_dark_skin_tone 🧛🏿\nvampire_light_skin_tone 🧛🏻",
    "vampire_medium-dark_skin_tone 🧛🏾\nvampire_medium-light_skin_tone 🧛🏼\nvampire_medium_skin_tone 🧛🏽",
    "vanuatu 🇻🇺\nvatican_city 🇻🇦\nvenezuela 🇻🇪\nvertical_traffic_light 🚦\nvhs 📼\nvibration_mode 📳",
    "victory_hand ✌\nvictory_hand_dark_skin_tone ✌🏿\nvictory_hand_light_skin_tone ✌🏻",
    "victory_hand_medium-dark_skin_tone ✌🏾\nvictory_hand_medium-light_skin_tone ✌🏼",
    "victory_hand_medium_skin_tone ✌🏽\nvideo_camera 📹\nvideo_game 🎮\nvideocassette 📼\nvietnam 🇻🇳",
    "violin 🎻\nvirgo ♍\nvolcano 🌋\nvolleyball 🏐\nvs 🆚\nvs_button 🆚\nvulcan_salute 🖖",
    "vulcan_salute_dark_skin_tone 🖖🏿\nvulcan_salute_light_skin_tone 🖖🏻",
    "vulcan_salute_medium-dark_skin_tone 🖖🏾\nvulcan_salute_medium-light_skin_tone 🖖🏼",
    "vulcan_salute_medium_skin_tone 🖖🏽"]

private def picturesW : List String := [
    "waffle 🧇\nwales 🏴󠁧󠁢󠁷󠁬󠁳󠁿\nwalking 🚶\nwallis_&_futuna 🇼🇫\nwaning_crescent_moon 🌘",
    "waning_gibbous_moon 🌖\nwarning ⚠\nwastebasket 🗑\nwatch ⌚\nwater_buffalo 🐃\nwater_closet 🚾",
    "water_wave 🌊\nwatermelon 🍉\nwave 👋\nwaving_black_flag 🏴\nwaving_hand 👋",
    "waving_hand_dark_skin_tone 👋🏿\nwaving_hand_light_skin_tone 👋🏻",
    "waving_hand_medium-dark_skin_tone 👋🏾\nwaving_hand_medium-light_skin_tone 👋🏼",
    "waving_hand_medium_skin_tone 👋🏽\nwaving_white_flag 🏳\nwavy_dash 〰\nwaxing_crescent_moon 🌒",
    "waxing_gibbous_moon 🌔\nwc 🚾\nweary 😩\nweary_cat_face 🙀\nweary_face 😩\nwedding 💒\nweight_lifter 🏋",
    "western_sahara 🇪🇭\nwhale 🐳\nwhale2 🐋\nwheel_of_dharma ☸\nwheelchair ♿\nwheelchair_symbol ♿",
    "white-haired_man 👨‍🦳\nwhite-haired_woman 👩‍🦳\nwhite_check_mark ✅\nwhite_circle ⚪",
    "white_exclamation_mark ❕\nwhite_flag 🏳\nwhite_flower 💮\nwhite_frowning_face ☹\nwhite_hair 🦳",
    "white_heart 🤍\nwhite_heavy_check_mark ✅\nwhite_large_square ⬜\nwhite_medium-small_square ◽",
    "white_medium_small_square ◽\nwhite_medium_square ◻\nwhite_medium_star ⭐\nwhite_question_mark ❔",
    "white_small_square ▫\nwhite_square_button 🔳\nwhite_sun_behind_cloud 🌥",
    "white_sun_behind_cloud_with_rain 🌦\nwhite_sun_with_small_cloud 🌤\nwilted_flower 🥀",
    "wind_blowing_face 🌬\nwind_chime 🎐\nwind_face 🌬\nwine_glass 🍷\nwink 😉\nwinking_face 😉",
    "winking_face_with_tongue 😜\nwolf 🐺\nwolf_face 🐺\nwoman 👩\nwoman_artist 👩‍🎨",
    "woman_artist_dark_skin_tone 👩🏿‍🎨\nwoman_artist_light_skin_tone 👩🏻‍🎨",
    "woman_artist_medium-dark_skin_tone 👩🏾‍🎨\nwoman_artist_medium-light_skin_tone 👩🏼‍🎨",
    "woman_artist_medium_skin_tone 👩🏽‍🎨\nwoman_astronaut 👩‍🚀\nwoman_astronaut_dark_skin_tone 👩🏿‍🚀",
    "woman_astronaut_light_skin_tone 👩🏻‍🚀\nwoman_astronaut_medium-dark_skin_tone 👩🏾‍🚀",
    "woman_astronaut_medium-light_skin_tone 👩🏼‍🚀\nwoman_astronaut_medium_skin_tone 👩🏽‍🚀",
    "woman_biking 🚴‍♀️\nwoman_biking_dark_skin_tone 🚴🏿‍♀️\nwoman_biking_light_skin_tone 🚴🏻‍♀️",
    "woman_biking_medium-dark_skin_tone 🚴🏾‍♀️\nwoman_biking_medium-light_skin_tone 🚴🏼‍♀️",
    "woman_biking_medium_skin_tone 🚴🏽‍♀️\nwoman_bouncing_ball ⛹️‍♀️",
    "woman_bouncing_ball_dark_skin_tone ⛹🏿‍♀️\nwoman_bouncing_ball_light_skin_tone ⛹🏻‍♀️",
    "woman_bouncing_ball_medium-dark_skin_tone ⛹🏾‍♀️\nwoman_bouncing_ball_medium-light_skin_tone ⛹🏼‍♀️",
    "woman_bouncing_ball_medium_skin_tone ⛹🏽‍♀️\nwoman_bowing 🙇‍♀️\nwoman_bowing_dark_skin_tone 🙇🏿‍♀️",
    "woman_bowing_light_skin_tone 🙇🏻‍♀️\nwoman_bowing_medium-dark_skin_tone 🙇🏾‍♀️",
    "woman_bowing_medium-light_skin_tone 🙇🏼‍♀️\nwoman_bowing_medium_skin_tone 🙇🏽‍♀️",
    "woman_cartwheeling 🤸‍♀️\nwoman_cartwheeling_dark_skin_tone 🤸🏿‍♀️",
    "woman_cartwheeling_light_skin_tone 🤸🏻‍♀️\nwoman_cartwheeling_medium-dark_skin_tone 🤸🏾‍♀️",
    "woman_cartwheeling_medium-light_skin_tone 🤸🏼‍♀️\nwoman_cartwheeling_medium_skin_tone 🤸🏽‍♀️",
    "woman_climbing 🧗‍♀️\nwoman_climbing_dark_skin_tone 🧗🏿‍♀️\nwoman_climbing_light_skin_tone 🧗🏻‍♀️",
    "woman_climbing_medium-dark_skin_tone 🧗🏾‍♀️\nwoman_climbing_medium-light_skin_tone 🧗🏼‍♀️",
    "woman_climbing_medium_skin_tone 🧗🏽‍♀️\nwoman_construction_worker 👷‍♀️",
    "woman_construction_worker_dark_skin_tone 👷🏿‍♀️\nwoman_construction_worker_light_skin_tone 👷🏻‍♀️",
    "woman_construction_worker_medium-dark_skin_tone 👷🏾‍♀️",
    "woman_construction_worker_medium-light_skin_tone 👷🏼‍♀️",
    "woman_construction_worker_medium_skin_tone 👷🏽‍♀️\nwoman_cook 👩‍🍳\nwoman_cook_dark_skin_tone 👩🏿‍🍳",
    "woman_cook_light_skin_tone 👩🏻‍🍳\nwoman_cook_medium-dark_skin_tone 👩🏾‍🍳",
    "woman_cook_medium-light_skin_tone 👩🏼‍🍳\nwoman_cook_medium_skin_tone 👩🏽‍🍳\nwoman_dancing 💃",
    "woman_dancing_dark_skin_tone 💃🏿\nwoman_dancing_light_skin_tone 💃🏻",
    "woman_dancing_medium-dark_skin_tone 💃🏾\nwoman_dancing_medium-light_skin_tone 💃🏼",
    "woman_dancing_medium_skin_tone 💃🏽\nwoman_dark_skin_tone 👩🏿\nwoman_detective 🕵️‍♀️",
    "woman_detective_dark_skin_tone 🕵🏿‍♀️\nwoman_detective_light_skin_tone 🕵🏻‍♀️",
    "woman_detective_medium-dark_skin_tone 🕵🏾‍♀️\nwoman_detective_medium-light_skin_tone 🕵🏼‍♀️",
    "woman_detective_medium_skin_tone 🕵🏽‍♀️\nwoman_elf 🧝‍♀️\nwoman_elf_dark_skin_tone 🧝🏿‍♀️",
    "woman_elf_light_skin_tone 🧝🏻‍♀️\nwoman_elf_medium-dark_skin_tone 🧝🏾‍♀️",
    "woman_elf_medium-light_skin_tone 🧝🏼‍♀️\nwoman_elf_medium_skin_tone 🧝🏽‍♀️\nwoman_facepalming 🤦‍♀️",
    "woman_facepalming_dark_skin_tone 🤦🏿‍♀️\nwoman_facepalming_light_skin_tone 🤦🏻‍♀️",
    "woman_facepalming_medium-dark_skin_tone 🤦🏾‍♀️\nwoman_facepalming_medium-light_skin_tone 🤦🏼‍♀️",
    "woman_facepalming_medium_skin_tone 🤦🏽‍♀️\nwoman_factory_worker 👩‍🏭",
    "woman_factory_worker_dark_skin_tone 👩🏿‍🏭\nwoman_factory_worker_light_skin_tone 👩🏻‍🏭",
    "woman_factory_worker_medium-dark_skin_tone 👩🏾‍🏭\nwoman_factory_worker_medium-light_skin_tone 👩🏼‍🏭",
    "woman_factory_worker_medium_skin_tone 👩🏽‍🏭\nwoman_fairy 🧚‍♀️\nwoman_fairy_dark_skin_tone 🧚🏿‍♀️",
    "woman_fairy_light_skin_tone 🧚🏻‍♀️\nwoman_fairy_medium-dark_skin_tone 🧚🏾‍♀️",
    "woman_fairy_medium-light_skin_tone 🧚🏼‍♀️\nwoman_fairy_medium_skin_tone 🧚🏽‍♀️\nwoman_farmer 👩‍🌾",
    "woman_farmer_dark_skin_tone 👩🏿‍🌾\nwoman_farmer_light_skin_tone 👩🏻‍🌾",
    "woman_farmer_medium-dark_skin_tone 👩🏾‍🌾\nwoman_farmer_medium-light_skin_tone 👩🏼‍🌾",
    "woman_farmer_medium_skin_tone 👩🏽‍🌾\nwoman_firefighter 👩‍🚒\nwoman_firefighter_dark_skin_tone 👩🏿‍🚒",
    "woman_firefighter_light_skin_tone 👩🏻‍🚒\nwoman_firefighter_medium-dark_skin_tone 👩🏾‍🚒",
    "woman_firefighter_medium-light_skin_tone 👩🏼‍🚒\nwoman_firefighter_medium_skin_tone 👩🏽‍🚒",
    "woman_frowning 🙍‍♀️\nwoman_frowning_dark_skin_tone 🙍🏿‍♀️\nwoman_frowning_light_skin_tone 🙍🏻‍♀️",
    "woman_frowning_medium-dark_skin_tone 🙍🏾‍♀️\nwoman_frowning_medium-light_skin_tone 🙍🏼‍♀️",
    "woman_frowning_medium_skin_tone 🙍🏽‍♀️\nwoman_genie 🧞‍♀️\nwoman_gesturing_no 🙅‍♀️",
    "woman_gesturing_no_dark_skin_tone 🙅🏿‍♀️\nwoman_gesturing_no_light_skin_tone 🙅🏻‍♀️",
    "woman_gesturing_no_medium-dark_skin_tone 🙅🏾‍♀️\nwoman_gesturing_no_medium-light_skin_tone 🙅🏼‍♀️",
    "woman_gesturing_no_medium_skin_tone 🙅🏽‍♀️\nwoman_gesturing_ok 🙆‍♀️",
    "woman_gesturing_ok_dark_skin_tone 🙆🏿‍♀️\nwoman_gesturing_ok_light_skin_tone 🙆🏻‍♀️",
    "woman_gesturing_ok_medium-dark_skin_tone 🙆🏾‍♀️\nwoman_gesturing_ok_medium-light_skin_tone 🙆🏼‍♀️",
    "woman_gesturing_ok_medium_skin_tone 🙆🏽‍♀️\nwoman_getting_haircut 💇‍♀️",
    "woman_getting_haircut_dark_skin_tone 💇🏿‍♀️\nwoman_getting_haircut_light_skin_tone 💇🏻‍♀️",
    "woman_getting_haircut_medium-dark_skin_tone 💇🏾‍♀️",
    "woman_getting_haircut_medium-light_skin_tone 💇🏼‍♀️\nwoman_getting_haircut_medium_skin_tone 💇🏽‍♀️",
    "woman_getting_massage 💆‍♀️\nwoman_getting_massage_dark_skin_tone 💆🏿‍♀️",
    "woman_getting_massage_light_skin_tone 💆🏻‍♀️\nwoman_getting_massage_medium-dark_skin_tone 💆🏾‍♀️",
    "woman_getting_massage_medium-light_skin_tone 💆🏼‍♀️\nwoman_getting_massage_medium_skin_tone 💆🏽‍♀️",
    "woman_golfing 🏌️‍♀️\nwoman_golfing_dark_skin_tone 🏌🏿‍♀️\nwoman_golfing_light_skin_tone 🏌🏻‍♀️",
    "woman_golfing_medium-dark_skin_tone 🏌🏾‍♀️\nwoman_golfing_medium-light_skin_tone 🏌🏼‍♀️",
    "woman_golfing_medium_skin_tone 🏌🏽‍♀️\nwoman_guard 💂‍♀️\nwoman_guard_dark_skin_tone 💂🏿‍♀️",
    "woman_guard_light_skin_tone 💂🏻‍♀️\nwoman_guard_medium-dark_skin_tone 💂🏾‍♀️",
    "woman_guard_medium-light_skin_tone 💂🏼‍♀️\nwoman_guard_medium_skin_tone 💂🏽‍♀️",
    "woman_health_worker 👩‍⚕️\nwoman_health_worker_dark_skin_tone 👩🏿‍⚕️",
    "woman_health_worker_light_skin_tone 👩🏻‍⚕️\nwoman_health_worker_medium-dark_skin_tone 👩🏾‍⚕️",
    "woman_health_worker_medium-light_skin_tone 👩🏼‍⚕️\nwoman_health_worker_medium_skin_tone 👩🏽‍⚕️",
    "woman_in_lotus_position 🧘‍♀️\nwoman_in_lotus_position_dark_skin_tone 🧘🏿‍♀️",
    "woman_in_lotus_position_light_skin_tone 🧘🏻‍♀️\nwoman_in_lotus_position_medium-dark_skin_tone 🧘🏾‍♀️",
    "woman_in_lotus_position_medium-light_skin_tone 🧘🏼‍♀️",
    "woman_in_lotus_position_medium_skin_tone 🧘🏽‍♀️\nwoman_in_manual_wheelchair 👩‍🦽",
    "woman_in_motorized_wheelchair 👩‍🦼\nwoman_in_steamy_room 🧖‍♀️",
    "woman_in_steamy_room_dark_skin_tone 🧖🏿‍♀️\nwoman_in_steamy_room_light_skin_tone 🧖🏻‍♀️",
    "woman_in_steamy_room_medium-dark_skin_tone 🧖🏾‍♀️",
    "woman_in_steamy_room_medium-light_skin_tone 🧖🏼‍♀️\nwoman_in_steamy_room_medium_skin_tone 🧖🏽‍♀️",
    "woman_judge 👩‍⚖️\nwoman_judge_dark_skin_tone 👩🏿‍⚖️\nwoman_judge_light_skin_tone 👩🏻‍⚖️",
    "woman_judge_medium-dark_skin_tone 👩🏾‍⚖️\nwoman_judge_medium-light_skin_tone 👩🏼‍⚖️",
    "woman_judge_medium_skin_tone 👩🏽‍⚖️\nwoman_juggling 🤹‍♀️\nwoman_juggling_dark_skin_tone 🤹🏿‍♀️",
    "woman_juggling_light_skin_tone 🤹🏻‍♀️\nwoman_juggling_medium-dark_skin_tone 🤹🏾‍♀️",
    "woman_juggling_medium-light_skin_tone 🤹🏼‍♀️\nwoman_juggling_medium_skin_tone 🤹🏽‍♀️",
    "woman_lifting_weights 🏋️‍♀️\nwoman_lifting_weights_dark_skin_tone 🏋🏿‍♀️",
    "woman_lifting_weights_light_skin_tone 🏋🏻‍♀️\nwoman_lifting_weights_medium-dark_skin_tone 🏋🏾‍♀️",
    "woman_lifting_weights_medium-light_skin_tone 🏋🏼‍♀️\nwoman_lifting_weights_medium_skin_tone 🏋🏽‍♀️",
    "woman_light_skin_tone 👩🏻\nwoman_mage 🧙‍♀️\nwoman_mage_dark_skin_tone 🧙🏿‍♀️",
    "woman_mage_light_skin_tone 🧙🏻‍♀️\nwoman_mage_medium-dark_skin_tone 🧙🏾‍♀️",
    "woman_mage_medium-light_skin_tone 🧙🏼‍♀️\nwoman_mage_medium_skin_tone 🧙🏽‍♀️\nwoman_mechanic 👩‍🔧",
    "woman_mechanic_dark_skin_tone 👩🏿‍🔧\nwoman_mechanic_light_skin_tone 👩🏻‍🔧",
    "woman_mechanic_medium-dark_skin_tone 👩🏾‍🔧\nwoman_mechanic_medium-light_skin_tone 👩🏼‍🔧",
    "woman_mechanic_medium_skin_tone 👩🏽‍🔧\nwoman_medium-dark_skin_tone 👩🏾",
    "woman_medium-light_skin_tone 👩🏼\nwoman_medium_skin_tone 👩🏽\nwoman_mountain_biking 🚵‍♀️",
    "woman_mountain_biking_dark_skin_tone 🚵🏿‍♀️\nwoman_mountain_biking_light_skin_tone 🚵🏻‍♀️",
    "woman_mountain_biking_medium-dark_skin_tone 🚵🏾‍♀️",
    "woman_mountain_biking_medium-light_skin_tone 🚵🏼‍♀️\nwoman_mountain_biking_medium_skin_tone 🚵🏽‍♀️",
    "woman_office_worker 👩‍💼\nwoman_office_worker_dark_skin_tone 👩🏿‍💼",
    "woman_office_worker_light_skin_tone 👩🏻‍💼\nwoman_office_worker_medium-dark_skin_tone 👩🏾‍💼",
    "woman_office_worker_medium-light_skin_tone 👩🏼‍💼\nwoman_office_worker_medium_skin_tone 👩🏽‍💼",
    "woman_pilot 👩‍✈️\nwoman_pilot_dark_skin_tone 👩🏿‍✈️\nwoman_pilot_light_skin_tone 👩🏻‍✈️",
    "woman_pilot_medium-dark_skin_tone 👩🏾‍✈️\nwoman_pilot_medium-light_skin_tone 👩🏼‍✈️",
    "woman_pilot_medium_skin_tone 👩🏽‍✈️\nwoman_playing_handball 🤾‍♀️",
    "woman_playing_handball_dark_skin_tone 🤾🏿‍♀️\nwoman_playing_handball_light_skin_tone 🤾🏻‍♀️",
    "woman_playing_handball_medium-dark_skin_tone 🤾🏾‍♀️",
    "woman_playing_handball_medium-light_skin_tone 🤾🏼‍♀️\nwoman_playing_handball_medium_skin_tone 🤾🏽‍♀️",
    "woman_playing_water_polo 🤽‍♀️\nwoman_playing_water_polo_dark_skin_tone 🤽🏿‍♀️",
    "woman_playing_water_polo_light_skin_tone 🤽🏻‍♀️",
    "woman_playing_water_polo_medium-dark_skin_tone 🤽🏾‍♀️",
    "woman_playing_water_polo_medium-light_skin_tone 🤽🏼‍♀️",
    "woman_playing_water_polo_medium_skin_tone 🤽🏽‍♀️\nwoman_police_officer 👮‍♀️",
    "woman_police_officer_dark_skin_tone 👮🏿‍♀️\nwoman_police_officer_light_skin_tone 👮🏻‍♀️",
    "woman_police_officer_medium-dark_skin_tone 👮🏾‍♀️",
    "woman_police_officer_medium-light_skin_tone 👮🏼‍♀️\nwoman_police_officer_medium_skin_tone 👮🏽‍♀️",
    "woman_pouting 🙎‍♀️\nwoman_pouting_dark_skin_tone 🙎🏿‍♀️\nwoman_pouting_light_skin_tone 🙎🏻‍♀️",
    "woman_pouting_medium-dark_skin_tone 🙎🏾‍♀️\nwoman_pouting_medium-light_skin_tone 🙎🏼‍♀️",
    "woman_pouting_medium_skin_tone 🙎🏽‍♀️\nwoman_raising_hand 🙋‍♀️",
    "woman_raising_hand_dark_skin_tone 🙋🏿‍♀️\nwoman_raising_hand_light_skin_tone 🙋🏻‍♀️",
    "woman_raising_hand_medium-dark_skin_tone 🙋🏾‍♀️\nwoman_raising_hand_medium-light_skin_tone 🙋🏼‍♀️",
    "woman_raising_hand_medium_skin_tone 🙋🏽‍♀️\nwoman_rowing_boat 🚣‍♀️",
    "woman_rowing_boat_dark_skin_tone 🚣🏿‍♀️\nwoman_rowing_boat_light_skin_tone 🚣🏻‍♀️",
    "woman_rowing_boat_medium-dark_skin_tone 🚣🏾‍♀️\nwoman_rowing_boat_medium-light_skin_tone 🚣🏼‍♀️",
    "woman_rowing_boat_medium_skin_tone 🚣🏽‍♀️\nwoman_running 🏃‍♀️\nwoman_running_dark_skin_tone 🏃🏿‍♀️",
    "woman_running_light_skin_tone 🏃🏻‍♀️\nwoman_running_medium-dark_skin_tone 🏃🏾‍♀️",
    "woman_running_medium-light_skin_tone 🏃🏼‍♀️\nwoman_running_medium_skin_tone 🏃🏽‍♀️",
    "woman_scientist 👩‍🔬\nwoman_scientist_dark_skin_tone 👩🏿‍🔬\nwoman_scientist_light_skin_tone 👩🏻‍🔬",
    "woman_scientist_medium-dark_skin_tone 👩🏾‍🔬\nwoman_scientist_medium-light_skin_tone 👩🏼‍🔬",
    "woman_scientist_medium_skin_tone 👩🏽‍🔬\nwoman_shrugging 🤷‍♀️\nwoman_shrugging_dark_skin_tone 🤷🏿‍♀️",
    "woman_shrugging_light_skin_tone 🤷🏻‍♀️\nwoman_shrugging_medium-dark_skin_tone 🤷🏾‍♀️",
    "woman_shrugging_medium-light_skin_tone 🤷🏼‍♀️\nwoman_shrugging_medium_skin_tone 🤷🏽‍♀️",
    "woman_singer 👩‍🎤\nwoman_singer_dark_skin_tone 👩🏿‍🎤\nwoman_singer_light_skin_tone 👩🏻‍🎤",
    "woman_singer_medium-dark_skin_tone 👩🏾‍🎤\nwoman_singer_medium-light_skin_tone 👩🏼‍🎤",
    "woman_singer_medium_skin_tone 👩🏽‍🎤\nwoman_student 👩‍🎓\nwoman_student_dark_skin_tone 👩🏿‍🎓",
    "woman_student_light_skin_tone 👩🏻‍🎓\nwoman_student_medium-dark_skin_tone 👩🏾‍🎓",
    "woman_student_medium-light_skin_tone 👩🏼‍🎓\nwoman_student_medium_skin_tone 👩🏽‍🎓\nwoman_surfing 🏄‍♀️",
    "woman_surfing_dark_skin_tone 🏄🏿‍♀️\nwoman_surfing_light_skin_tone 🏄🏻‍♀️",
    "woman_surfing_medium-dark_skin_tone 🏄🏾‍♀️\nwoman_surfing_medium-light_skin_tone 🏄🏼‍♀️",
    "woman_surfing_medium_skin_tone 🏄🏽‍♀️\nwoman_swimming 🏊‍♀️\nwoman_swimming_dark_skin_tone 🏊🏿‍♀️",
    "woman_swimming_light_skin_tone 🏊🏻‍♀️\nwoman_swimming_medium-dark_skin_tone 🏊🏾‍♀️",
    "woman_swimming_medium-light_skin_tone 🏊🏼‍♀️\nwoman_swimming_medium_skin_tone 🏊🏽‍♀️",
    "woman_teacher 👩‍🏫\nwoman_teacher_dark_skin_tone 👩🏿‍🏫\nwoman_teacher_light_skin_tone 👩🏻‍🏫",
    "woman_teacher_medium-dark_skin_tone 👩🏾‍🏫\nwoman_teacher_medium-light_skin_tone 👩🏼‍🏫",
    "woman_teacher_medium_skin_tone 👩🏽‍🏫\nwoman_technologist 👩‍💻",
    "woman_technologist_dark_skin_tone 👩🏿‍💻\nwoman_technologist_light_skin_tone 👩🏻‍💻",
    "woman_technologist_medium-dark_skin_tone 👩🏾‍💻\nwoman_technologist_medium-light_skin_tone 👩🏼‍💻",
    "woman_technologist_medium_skin_tone 👩🏽‍💻\nwoman_tipping_hand 💁‍♀️",
    "woman_tipping_hand_dark_skin_tone 💁🏿‍♀️\nwoman_tipping_hand_light_skin_tone 💁🏻‍♀️",
    "woman_tipping_hand_medium-dark_skin_tone 💁🏾‍♀️\nwoman_tipping_hand_medium-light_skin_tone 💁🏼‍♀️",
    "woman_tipping_hand_medium_skin_tone 💁🏽‍♀️\nwoman_vampire 🧛‍♀️\nwoman_vampire_dark_skin_tone 🧛🏿‍♀️",
    "woman_vampire_light_skin_tone 🧛🏻‍♀️\nwoman_vampire_medium-dark_skin_tone 🧛🏾‍♀️",
    "woman_vampire_medium-light_skin_tone 🧛🏼‍♀️\nwoman_vampire_medium_skin_tone 🧛🏽‍♀️",
    "woman_walking 🚶‍♀️\nwoman_walking_dark_skin_tone 🚶🏿‍♀️\nwoman_walking_light_skin_tone 🚶🏻‍♀️",
    "woman_walking_medium-dark_skin_tone 🚶🏾‍♀️\nwoman_walking_medium-light_skin_tone 🚶🏼‍♀️",
    "woman_walking_medium_skin_tone 🚶🏽‍♀️\nwoman_wearing_turban 👳‍♀️",
    "woman_wearing_turban_dark_skin_tone 👳🏿‍♀️\nwoman_wearing_turban_light_skin_tone 👳🏻‍♀️",
    "woman_wearing_turban_medium-dark_skin_tone 👳🏾‍♀️",
    "woman_wearing_turban_medium-light_skin_tone 👳🏼‍♀️\nwoman_wearing_turban_medium_skin_tone 👳🏽‍♀️",
    "woman_with_headscarf 🧕\nwoman_with_headscarf_dark_skin_tone 🧕🏿",
    "woman_with_headscarf_light_skin_tone 🧕🏻\nwoman_with_headscarf_medium-dark_skin_tone 🧕🏾",
    "woman_with_headscarf_medium-light_skin_tone 🧕🏼\nwoman_with_headscarf_medium_skin_tone 🧕🏽",
    "woman_with_probing_cane 👩‍🦯\nwoman_zombie 🧟‍♀️\nwomans_clothes 👚\nwomans_hat 👒\nwoman’s_boot 👢",
    "woman’s_clothes 👚\nwoman’s_hat 👒\nwoman’s_sandal 👡\nwomen_with_bunny_ears 👯‍♀️",
    "women_wrestling 🤼‍♀️\nwomens 🚺\nwomen’s_room 🚺\nwoozy_face 🥴\nworld_map 🗺\nworried 😟",
    "worried_face 😟\nwrapped_gift 🎁\nwrench 🔧\nwriting_hand ✍\nwriting_hand_dark_skin_tone ✍🏿",
    "writing_hand_light_skin_tone ✍🏻\nwriting_hand_medium-dark_skin_tone ✍🏾",
    "writing_hand_medium-light_skin_tone ✍🏼\nwriting_hand_medium_skin_tone ✍🏽"]

private def picturesX : List String := [
    "x ❌"]

private def picturesY : List String := [
    "yarn 🧶\nyawning_face 🥱\nyellow_circle 🟡\nyellow_heart 💛\nyellow_square 🟨\nyemen 🇾🇪\nyen 💴",
    "yen_banknote 💴\nyin_yang ☯\nyo-yo 🪀\nyum 😋"]

private def picturesZ : List String := [
    "zambia 🇿🇲\nzany_face 🤪\nzap ⚡\nzebra 🦓\nzero 0️⃣\nzimbabwe 🇿🇼\nzipper-mouth_face 🤐",
    "zipper__mouth_face 🤐\nzombie 🧟\nzzz 💤"]

/-- Names and pictures, several lines in each piece. -/
def pictureTable : List String :=
    picturesOther ++ picturesA ++ picturesB ++ picturesC ++ picturesD ++ picturesE ++ picturesF ++ picturesG ++
    picturesH ++ picturesI ++ picturesJ ++ picturesK ++ picturesL ++ picturesM ++ picturesN ++ picturesO ++
    picturesP ++ picturesQ ++ picturesR ++ picturesS ++ picturesT ++ picturesU ++ picturesV ++ picturesW ++
    picturesX ++ picturesY ++ picturesZ

end FunctionMetrics.Terminal
