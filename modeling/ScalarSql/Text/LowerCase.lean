import ScalarSql.Text.CaseTables

/-!
Lower case of a whole text by the Unicode rules. Two letters do not map one to one: a capital
sigma becomes the final form at the end of a word, and a dotted capital I becomes two characters.
-/
namespace ScalarSql.Text

def isCased (c : Char) : Bool := inRanges casedRanges c.toNat

def isCaseIgnorable (c : Char) : Bool := inRanges caseIgnorableRanges c.toNat

def lowerChar (c : Char) : Char :=
  if c.toNat < 0x80 then c.toLower
  else match lowerRanges.find? (·.covers c.toNat) with
    | some r => Char.ofNat (r.image c.toNat)
    | none => c

/-- Whether the first character that counts for casing is a cased one. -/
def startsCased (cs : List Char) : Bool :=
  match cs.dropWhile isCaseIgnorable with
  | [] => false
  | c :: _ => isCased c

def capitalSigma : Char := '\u03a3'

def capitalDottedI : Char := '\u0130'

/-- A sigma ends a word if a cased letter stands before it and none after it. The first list
holds the characters before the sigma, the nearest one first. -/
def lowerSigma (before after : List Char) : Char :=
  if startsCased before && !startsCased after then '\u03c2' else '\u03c3'

def lowerFrom (before : List Char) : List Char → List Char
  | [] => []
  | c :: after =>
    let rest := lowerFrom (c :: before) after
    if c = capitalSigma then lowerSigma before after :: rest
    else if c = capitalDottedI then 'i' :: '\u0307' :: rest
    else lowerChar c :: rest

def lower (s : String) : String := String.ofList (lowerFrom [] s.toList)

end ScalarSql.Text
