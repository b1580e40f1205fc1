/-!
Text as a list of Unicode code points. Surrogates are ordinary members: two that stand side by side
stay two, which is why a text is not a core string.
-/

namespace Stencil

/-- A number that Unicode assigns to a character, a surrogate or nothing at all. -/
structure CodePoint where
  val : Nat
  val_lt : val < 0x110000
deriving DecidableEq

namespace CodePoint

def ofNat? (n : Nat) : Option CodePoint :=
  if h : n < 0x110000 then some ⟨n, h⟩ else none

def ofChar (c : Char) : CodePoint :=
  ⟨c.toNat, by
    have h := c.valid
    simp only [UInt32.isValidChar, Nat.isValidChar] at h
    simp only [Char.toNat]
    omega⟩

instance : Coe Char CodePoint := ⟨ofChar⟩

instance : Inhabited CodePoint := ⟨ofChar ' '⟩

theorem ext {a b : CodePoint} (h : a.val = b.val) : a = b := by
  cases a; cases b; simp_all

def isSurrogate (c : CodePoint) : Bool :=
  0xD800 ≤ c.val && c.val ≤ 0xDFFF

def toChar? (c : CodePoint) : Option Char :=
  if h : c.val.isValidChar then some (Char.ofNatAux c.val h) else none

end CodePoint

abbrev Text := List CodePoint

namespace Text

def ofChars (cs : List Char) : Text :=
  cs.map CodePoint.ofChar

def ofString (s : String) : Text :=
  ofChars s.toList

instance : Coe String Text := ⟨ofString⟩

@[simp] theorem ofString_append (s t : String) : ofString (s ++ t) = ofString s ++ ofString t := by
  simp [ofString, ofChars]

def toString? (t : Text) : Option String :=
  (t.mapM CodePoint.toChar?).map String.ofList

def join (separator : Text) (ts : List Text) : Text :=
  (ts.intersperse separator).flatten

def words : Text → List Text
  | [] => [[]]
  | c :: rest =>
    match words rest with
    | [] => [[c]]
    | w :: ws => if c = CodePoint.ofChar ' ' then [] :: w :: ws else (c :: w) :: ws

def occursIn (part : Text) : Text → Bool
  | [] => part.isEmpty
  | c :: rest => part.isPrefixOf (c :: rest) || occursIn part rest

end Text
end Stencil
