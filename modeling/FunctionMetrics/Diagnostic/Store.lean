import FunctionMetrics.Diagnostic.Basic

/-! # Published diagnostics

One list for each buffer. A buffer is known by any value that can be a key. -/

namespace FunctionMetrics

structure Store where
  namespaceName : String := Diagnostic.publisher
  entries : List (Value × List Diagnostic) := []

namespace Store

/-- The list last published for a buffer, or an empty one. -/
def lookup (buffer : Value) : List (Value × List Diagnostic) → List Diagnostic
  | [] => []
  | (b, ds) :: rest => if b.sameKey buffer then ds else lookup buffer rest

def insert (buffer : Value) (ds : List Diagnostic) :
    List (Value × List Diagnostic) → List (Value × List Diagnostic)
  | [] => [(buffer, ds)]
  | (b, old) :: rest => if b.sameKey buffer then (b, ds) :: rest else (b, old) :: insert buffer ds rest

def checkKey (buffer : Value) : Outcome Unit :=
  match buffer.notKey? with
  | some given => fail (.unhashable given)
  | none => .ok ()

def get (s : Store) (buffer : Value) : Outcome (List Diagnostic) := do
  checkKey buffer
  return lookup buffer s.entries

def set (s : Store) (buffer : Value) (ds : List Diagnostic) : Outcome Store := do
  checkKey buffer
  return { s with entries := insert buffer ds s.entries }

/-- Forgets a buffer. In an empty store there is nothing to look for, so there any value will do. -/
def clear (s : Store) (buffer : Value) : Outcome Store := do
  if s.entries.isEmpty then return s
  checkKey buffer
  return { s with entries := s.entries.filter fun (b, _) => ! b.sameKey buffer }

end Store

end FunctionMetrics
