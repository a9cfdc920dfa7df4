import FunctionMetrics.Text.Utf8
import Mathlib.Algebra.Group.Nat.Defs
import Mathlib.Tactic.SplitIfs

/-!
# Text from its own bytes

Bytes that spell a text are read as that text, and no other text is read from them. Only these bytes are read without a
fault.
-/

namespace FunctionMetrics.Utf8

theorem toNat_byte {n : Nat} (h : n < 256) : n.toUInt8.toNat = n := by
  change (UInt8.ofNat n).toNat = n
  rw [UInt8.toNat_ofNat']
  exact Nat.mod_eq_of_lt h

def tailByte (n shift : Nat) : UInt8 := (0x80 + (n >>> shift) % 64).toUInt8

theorem toNat_tailByte (n shift : Nat) : (tailByte n shift).toNat = 0x80 + n / 2 ^ shift % 64 := by
  rw [tailByte, Nat.shiftRight_eq_div_pow]
  exact toNat_byte (by omega)

theorem toNat_charOfNat {n : Nat} (h : n.isValidChar) : (Char.ofNat n).toNat = n := by
  rw [Char.toNat, Char.ofNat, dif_pos h]
  rfl

theorem toNat_valid (c : Char) : c.toNat < 0xD800 ∨ 0xDFFF < c.toNat ∧ c.toNat < 0x110000 := c.valid

/-! ## Steps -/

theorem continueChar_cons {value size : Nat} {low high b : UInt8} {more : Nat} {rest : List UInt8}
    (hlow : low.toNat ≤ b.toNat) (hhigh : b.toNat ≤ high.toNat) :
    continueChar value size low high (more + 1) (b :: rest) =
      continueChar (value * 64 + (b.toNat - 0x80)) (size + 1) 0x80 0xBF more rest := by
  rw [continueChar, if_pos ⟨UInt8.le_iff_toNat_le.mpr hlow, UInt8.le_iff_toNat_le.mpr hhigh⟩]

theorem continueChar_tailByte (value size more n shift : Nat) (rest : List UInt8) :
    continueChar value size 0x80 0xBF (more + 1) (tailByte n shift :: rest) =
      continueChar (value * 64 + n / 2 ^ shift % 64) (size + 1) 0x80 0xBF more rest := by
  have hbyte := toNat_tailByte n shift
  rw [continueChar_cons (by rw [hbyte]; change 128 ≤ _; omega) (by rw [hbyte]; change _ ≤ 191; omega), hbyte,
    Nat.add_sub_cancel_left]

theorem step_of_follow {lead low high : UInt8} {more head : Nat} (hlead : 0x80 ≤ lead.toNat)
    (hfollow : follow? lead = some (low, high, more))
    (hhead : (if more = 1 then lead.toNat - 0xC0 else if more = 2 then lead.toNat - 0xE0 else lead.toNat - 0xF0) = head)
    (rest : List UInt8) : step lead rest = continueChar head 1 low high more rest := by
  have hnot : ¬ lead < 0x80 := by
    rw [UInt8.lt_iff_toNat_lt]
    change ¬ lead.toNat < 128
    omega
  rw [step, if_neg hnot, hfollow]
  simp only [hhead]

theorem follow?_two {lead : UInt8} (h : 0xC2 ≤ lead.toNat) (h' : lead.toNat < 0xE0) :
    follow? lead = some (0x80, 0xBF, 1) := by
  unfold follow?
  simp only [UInt8.lt_iff_toNat_lt, ← UInt8.toNat_inj, UInt8.reduceToNat]
  split_ifs <;> first | rfl | omega

theorem follow?_three {lead : UInt8} (h : 0xE0 ≤ lead.toNat) (h' : lead.toNat < 0xF0) :
    follow? lead = some (if lead.toNat = 0xE0 then 0xA0 else 0x80, if lead.toNat = 0xED then 0x9F else 0xBF, 2) := by
  unfold follow?
  simp only [UInt8.lt_iff_toNat_lt, ← UInt8.toNat_inj, UInt8.reduceToNat]
  split_ifs <;> first | rfl | omega

theorem follow?_four {lead : UInt8} (h : 0xF0 ≤ lead.toNat) (h' : lead.toNat < 0xF5) :
    follow? lead = some (if lead.toNat = 0xF0 then 0x90 else 0x80, if lead.toNat = 0xF4 then 0x8F else 0xBF, 3) := by
  unfold follow?
  simp only [UInt8.lt_iff_toNat_lt, ← UInt8.toNat_inj, UInt8.reduceToNat]
  split_ifs <;> first | rfl | omega

/-- The first byte of a character tells how many follow, and these give back its number six bits at a time. -/
theorem step_encodeChar (c : Char) (rest : List UInt8) :
    ∃ lead tail, encodeChar c = lead :: tail ∧ step lead (tail ++ rest) = .char c (tail.length + 1) := by
  have hvalid := toNat_valid c
  have hchar : Char.ofNat c.toNat = c := Char.ofNat_toNat c
  generalize hn : c.toNat = n at hvalid hchar
  unfold encodeChar
  simp only [hn]
  split_ifs with h1 h2 h3
  · refine ⟨n.toUInt8, [], rfl, ?_⟩
    have hlead : n.toUInt8.toNat = n := toNat_byte (by omega)
    have hlt : n.toUInt8 < 0x80 := by
      rw [UInt8.lt_iff_toNat_lt, hlead]
      exact h1
    rw [step, if_pos hlt, hlead, hchar]
    rfl
  · refine ⟨_, [tailByte n 0], rfl, ?_⟩
    have hlead : (0xC0 + n >>> 6).toUInt8.toNat = 0xC0 + n / 64 := by
      rw [Nat.shiftRight_eq_div_pow]
      exact toNat_byte (by omega)
    rw [step_of_follow (by omega) (follow?_two (by omega) (by omega)) rfl, if_pos rfl, hlead]
    change continueChar _ _ _ _ _ (tailByte n 0 :: rest) = _
    rw [continueChar_tailByte, continueChar, ← hchar]
    congr 2
    omega
  · refine ⟨_, [tailByte n 6, tailByte n 0], rfl, ?_⟩
    have hlead : (0xE0 + n >>> 12).toUInt8.toNat = 0xE0 + n / 4096 := by
      rw [Nat.shiftRight_eq_div_pow]
      exact toNat_byte (by omega)
    have hnext := toNat_tailByte n 6
    rw [step_of_follow (by omega) (follow?_three (by omega) (by omega)) rfl, if_neg (by decide), if_pos rfl, hlead]
    change continueChar _ _ _ _ _ (tailByte n 6 :: tailByte n 0 :: rest) = _
    rw [continueChar_cons, continueChar_tailByte, continueChar, hnext, ← hchar]
    · congr 2
      omega
    · split_ifs <;> simp only [UInt8.reduceToNat] <;> omega
    · split_ifs <;> simp only [UInt8.reduceToNat] <;> omega
  · refine ⟨_, [tailByte n 12, tailByte n 6, tailByte n 0], rfl, ?_⟩
    have hlead : (0xF0 + n >>> 18).toUInt8.toNat = 0xF0 + n / 262144 := by
      rw [Nat.shiftRight_eq_div_pow]
      exact toNat_byte (by omega)
    have hnext := toNat_tailByte n 12
    rw [step_of_follow (by omega) (follow?_four (by omega) (by omega)) rfl, if_neg (by decide), if_neg (by decide), hlead]
    change continueChar _ _ _ _ _ (tailByte n 12 :: tailByte n 6 :: tailByte n 0 :: rest) = _
    rw [continueChar_cons, continueChar_tailByte, continueChar_tailByte, continueChar, hnext, ← hchar]
    · congr 2
      omega
    · split_ifs <;> simp only [UInt8.reduceToNat] <;> omega
    · split_ifs <;> simp only [UInt8.reduceToNat] <;> omega

/-! ## Texts -/

theorem decodeLossyChars_encodeChar (c : Char) (rest : List UInt8) :
    decodeLossyChars (encodeChar c ++ rest) = c :: decodeLossyChars rest := by
  obtain ⟨lead, tail, hbytes, hstep⟩ := step_encodeChar c rest
  rw [hbytes, List.cons_append, decodeLossyChars, hstep]
  simp [Step.after]

theorem decodeLossyChars_encode (cs : List Char) : decodeLossyChars (cs.flatMap encodeChar) = cs := by
  induction cs with
  | nil => rw [List.flatMap_nil, decodeLossyChars]
  | cons c rest ih => rw [List.flatMap_cons, decodeLossyChars_encodeChar, ih]

theorem decodeLossy_encode (s : String) : decodeLossy (encode s) = s := by
  rw [decodeLossy, encode, decodeLossyChars_encode, String.ofList_toList]

/-! ## Bytes back from characters -/

theorem continueChar_eq_char {value size more k : Nat} {low high : UInt8} {rest : List UInt8} {c : Char}
    (h : continueChar value size low high (more + 1) rest = .char c k) :
    ∃ b after, rest = b :: after ∧ low.toNat ≤ b.toNat ∧ b.toNat ≤ high.toNat ∧
      continueChar (value * 64 + (b.toNat - 0x80)) (size + 1) 0x80 0xBF more after = .char c k := by
  cases rest with
  | nil => cases h
  | cons b after =>
    rw [continueChar] at h
    split at h
    case isTrue hb => exact ⟨b, after, rfl, UInt8.le_iff_toNat_le.mp hb.1, UInt8.le_iff_toNat_le.mp hb.2, h⟩
    case isFalse => cases h

theorem toUInt8_eq {b : UInt8} {n : Nat} (h : n = b.toNat) : n.toUInt8 = b := by
  have hlt := b.toNat_lt
  rw [← UInt8.toNat_inj, toNat_byte (by omega), h]

theorem tailByte_eq {b : UInt8} {n shift : Nat} (h : 0x80 + n / 2 ^ shift % 64 = b.toNat) : tailByte n shift = b := by
  rw [← UInt8.toNat_inj, toNat_tailByte, h]

theorem encodeChar_two {n : Nat} (hvalid : n.isValidChar) (h : 0x80 ≤ n) (h' : n < 0x800) :
    encodeChar (Char.ofNat n) = [(0xC0 + n / 64).toUInt8, tailByte n 0] := by
  unfold encodeChar
  simp only [toNat_charOfNat hvalid]
  rw [if_neg (by omega), if_pos h', Nat.shiftRight_eq_div_pow]
  rfl

theorem encodeChar_three {n : Nat} (hvalid : n.isValidChar) (h : 0x800 ≤ n) (h' : n < 0x10000) :
    encodeChar (Char.ofNat n) = [(0xE0 + n / 4096).toUInt8, tailByte n 6, tailByte n 0] := by
  unfold encodeChar
  simp only [toNat_charOfNat hvalid]
  rw [if_neg (by omega), if_neg (by omega), if_pos h', Nat.shiftRight_eq_div_pow]
  rfl

theorem encodeChar_four {n : Nat} (hvalid : n.isValidChar) (h : 0x10000 ≤ n) :
    encodeChar (Char.ofNat n) = [(0xF0 + n / 262144).toUInt8, tailByte n 12, tailByte n 6, tailByte n 0] := by
  unfold encodeChar
  simp only [toNat_charOfNat hvalid]
  rw [if_neg (by omega), if_neg (by omega), if_neg (by omega), Nat.shiftRight_eq_div_pow]
  rfl

theorem follow?_eq_none {lead : UInt8} (h : lead.toNat < 0xC2 ∨ 0xF5 ≤ lead.toNat) : follow? lead = none := by
  unfold follow?
  simp only [UInt8.lt_iff_toNat_lt, ← UInt8.toNat_inj, UInt8.reduceToNat]
  split_ifs <;> first | rfl | omega

theorem step_of_bad {lead : UInt8} (hlead : 0x80 ≤ lead.toNat) (h : lead.toNat < 0xC2 ∨ 0xF5 ≤ lead.toNat)
    (rest : List UInt8) : step lead rest = .bad .invalidStart 1 := by
  have hnot : ¬ lead < 0x80 := by
    rw [UInt8.lt_iff_toNat_lt]
    change ¬ lead.toNat < 128
    omega
  rw [step, if_neg hnot, follow?_eq_none h]

theorem encodeChar_of_step {lead : UInt8} {rest : List UInt8} {c : Char} {size : Nat}
    (h : step lead rest = .char c size) :
    ∃ tail after, rest = tail ++ after ∧ encodeChar c = lead :: tail ∧ size = tail.length + 1 := by
  by_cases hascii : lead.toNat < 0x80
  · have hlead : lead < 0x80 := UInt8.lt_iff_toNat_lt.mpr hascii
    rw [step, if_pos hlead] at h
    cases h
    refine ⟨[], rest, rfl, ?_, rfl⟩
    unfold encodeChar
    simp only [toNat_charOfNat (Or.inl (by omega) : lead.toNat.isValidChar)]
    rw [if_pos hascii, toUInt8_eq rfl]
  by_cases hbad : lead.toNat < 0xC2 ∨ 0xF5 ≤ lead.toNat
  · rw [step_of_bad (by omega) hbad] at h
    cases h
  by_cases htwo : lead.toNat < 0xE0
  · rw [step_of_follow (by omega) (follow?_two (by omega) htwo) rfl, if_pos rfl] at h
    obtain ⟨b, after, rfl, hlow, hhigh, h⟩ := continueChar_eq_char h
    simp only [UInt8.reduceToNat] at hlow hhigh
    rw [continueChar] at h
    obtain ⟨rfl, rfl⟩ := Step.char.inj h
    have hvalid : ((lead.toNat - 0xC0) * 64 + (b.toNat - 0x80)).isValidChar := Or.inl (by omega)
    refine ⟨[b], after, rfl, ?_, rfl⟩
    rw [encodeChar_two hvalid (by omega) (by omega), toUInt8_eq (b := lead) (by omega), tailByte_eq (b := b) (by omega)]
  by_cases hthree : lead.toNat < 0xF0
  · rw [step_of_follow (by omega) (follow?_three (by omega) hthree) rfl, if_neg (by decide), if_pos rfl] at h
    obtain ⟨b, after, rfl, hlow, hhigh, h⟩ := continueChar_eq_char h
    obtain ⟨b', after, rfl, hlow', hhigh', h⟩ := continueChar_eq_char h
    rw [continueChar] at h
    obtain ⟨rfl, rfl⟩ := Step.char.inj h
    simp only [apply_ite UInt8.toNat, UInt8.reduceToNat] at hlow hhigh hlow' hhigh'
    have hvalid : (((lead.toNat - 0xE0) * 64 + (b.toNat - 0x80)) * 64 + (b'.toNat - 0x80)).isValidChar := by
      unfold Nat.isValidChar
      split_ifs at hlow hhigh <;> omega
    refine ⟨[b, b'], after, rfl, ?_, rfl⟩
    rw [encodeChar_three hvalid, toUInt8_eq (b := lead), tailByte_eq (b := b), tailByte_eq (b := b')]
    all_goals split_ifs at hlow hhigh <;> omega
  · rw [step_of_follow (by omega) (follow?_four (by omega) (by omega)) rfl, if_neg (by decide), if_neg (by decide)] at h
    obtain ⟨b, after, rfl, hlow, hhigh, h⟩ := continueChar_eq_char h
    obtain ⟨b', after, rfl, hlow', hhigh', h⟩ := continueChar_eq_char h
    obtain ⟨b'', after, rfl, hlow'', hhigh'', h⟩ := continueChar_eq_char h
    rw [continueChar] at h
    obtain ⟨rfl, rfl⟩ := Step.char.inj h
    simp only [apply_ite UInt8.toNat, UInt8.reduceToNat] at hlow hhigh hlow' hhigh' hlow'' hhigh''
    have hvalid : ((((lead.toNat - 0xF0) * 64 + (b.toNat - 0x80)) * 64 + (b'.toNat - 0x80)) * 64 +
        (b''.toNat - 0x80)).isValidChar := by
      unfold Nat.isValidChar
      split_ifs at hlow hhigh <;> omega
    refine ⟨[b, b', b''], after, rfl, ?_, rfl⟩
    rw [encodeChar_four hvalid, toUInt8_eq (b := lead), tailByte_eq (b := b), tailByte_eq (b := b'), tailByte_eq (b := b'')]
    all_goals split_ifs at hlow hhigh <;> omega

/-! ## Exact texts -/

theorem decodeFrom_encodeChar (place : Nat) (c : Char) (rest : List UInt8) :
    decodeFrom place (encodeChar c ++ rest) = (decodeFrom (place + (encodeChar c).length) rest).map (c :: ·) := by
  obtain ⟨lead, tail, hbytes, hstep⟩ := step_encodeChar c rest
  rw [hbytes, List.cons_append, decodeFrom, hstep]
  simp [Step.after]

theorem decodeFrom_eq_ok {place : Nat} {bytes : List UInt8} {cs : List Char} :
    decodeFrom place bytes = .ok cs ↔ bytes = cs.flatMap encodeChar := by
  constructor
  · intro h
    fun_induction decodeFrom place bytes generalizing cs with
    | case1 => cases h; rfl
    | case2 => cases h
    | case3 place b rest c size hstep ih =>
      obtain ⟨tail, after, rfl, hbytes, rfl⟩ := encodeChar_of_step hstep
      have hafter : (step b (tail ++ after)).after (tail ++ after) = after := by
        rw [hstep, Step.after, Nat.add_sub_cancel, List.drop_left]
      rw [hafter] at ih h
      cases hrest : decodeFrom (place + (tail.length + 1)) after with
      | error e => rw [hrest] at h; cases h
      | ok rest =>
        rw [hrest] at h
        cases h
        rw [List.flatMap_cons, hbytes, List.cons_append, ← ih hrest]
  · rintro rfl
    induction cs generalizing place with
    | nil => rw [List.flatMap_nil, decodeFrom]
    | cons c rest ih => rw [List.flatMap_cons, decodeFrom_encodeChar, ih]; rfl

theorem decode_eq_ok {bytes : List UInt8} {s : String} : decode bytes = .ok s ↔ bytes = encode s := by
  unfold decode encode
  rw [← @decodeFrom_eq_ok 0]
  cases decodeFrom 0 bytes with
  | error e => simp [Except.map]
  | ok cs =>
    simp only [Except.map, Except.ok.injEq]
    constructor
    · rintro rfl
      exact String.toList_ofList.symm
    · rintro rfl
      exact String.ofList_toList

end FunctionMetrics.Utf8
