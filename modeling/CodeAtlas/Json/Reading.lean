import CodeAtlas.Json.Numeral

namespace CodeAtlas

namespace Reader

def hexValue (c : Char) : Option Nat :=
  if c.isDigit then some (c.toNat - '0'.toNat)
  else if 'a' ≤ c && c ≤ 'f' then some (c.toNat - 'a'.toNat + 10)
  else if 'A' ≤ c && c ≤ 'F' then some (c.toNat - 'A'.toNat + 10)
  else none

/-- The four digits of an escape that begins at a byte. -/
def hexEscape (cs : List Char) (i : Nat) : Except JsonFlaw Nat :=
  match cs with
  | a :: b :: c :: d :: _ =>
    match hexValue a, hexValue b, hexValue c, hexValue d with
    | some w, some x, some y, some z => .ok (((w * 16 + x) * 16 + y) * 16 + z)
    | _, _, _, _ => .error ⟨.invalidEscape, some (i + 4)⟩
  | few =>
    let bytes := Cursor.bytesOf few
    if bytes < 4 then .error ⟨.endInString, some (i + bytes)⟩
    else .error ⟨.invalidEscape, some (i + 4)⟩

/-- An escape of two halves; the first was read. -/
def surrogatePair (high : Nat) (cs : List Char) (i : Nat) : Except JsonFlaw (Char × Nat) :=
  match cs with
  | [] => .error ⟨.endInString, some i⟩
  | '\\' :: rest =>
    match rest with
    | [] => .error ⟨.endInString, some (i + 1)⟩
    | 'u' :: more => do
      let low ← hexEscape more (i + 2)
      if low < 0xdc00 || low > 0xdfff then .error ⟨.loneSurrogate, some (i + 6)⟩
      else .ok (Char.ofNat ((high - 0xd800) * 0x400 + (low - 0xdc00) + 0x10000), 6)
    | _ => .error ⟨.endOfHexEscape, some (i + 2)⟩
  | _ => .error ⟨.endOfHexEscape, some (i + 1)⟩

/-- The character of an escape whose backslash was read, and how many characters spell it. -/
def escaped (cs : List Char) (i : Nat) : Except JsonFlaw (Char × Nat) :=
  match cs with
  | [] => .error ⟨.endInString, some i⟩
  | c :: rest =>
    if c = '\x22' || c = '\\' || c = '/' then .ok (c, 1)
    else if c = 'b' then .ok ('\x08', 1)
    else if c = 'f' then .ok ('\x0c', 1)
    else if c = 'n' then .ok ('\n', 1)
    else if c = 'r' then .ok ('\r', 1)
    else if c = 't' then .ok ('\t', 1)
    else if c = 'u' then do
      let n ← hexEscape rest (i + 1)
      if 0xdc00 ≤ n && n ≤ 0xdfff then .error ⟨.loneSurrogate, some (i + 5)⟩
      else if 0xd800 ≤ n && n ≤ 0xdbff then
        let (d, more) ← surrogatePair n (rest.drop 4) (i + 5)
        return (d, 5 + more)
      else .ok (Char.ofNat n, 5)
    else .error ⟨.invalidEscape, some (i + 1)⟩

/-- The characters of a string up to its closing quote. -/
def stringChars (cs : List Char) (i : Nat) (soFar : List Char) : Outcome String :=
  match cs with
  | [] => .failed ⟨.endInString, some i⟩ ⟨[], i⟩
  | c :: rest =>
    if c = '\x22' then .done (String.ofList soFar.reverse) ⟨rest, i + 1⟩
    else if c = '\\' then
      match escaped rest (i + 1) with
      | .error e => .failed e ⟨rest, i + 1⟩
      | .ok (d, n) => stringChars (rest.drop n) (i + 1 + n) (d :: soFar)
    else if c.toNat < 0x20 then .failed ⟨.controlCharacter, some (i + 1)⟩ ⟨rest, i + 1⟩
    else stringChars rest (i + c.utf8Size) (c :: soFar)
termination_by cs.length
decreasing_by all_goals (simp only [List.length_drop, List.length_cons]; omega)

/-- A string whose opening quote is next. -/
def quotedString : Reader String := do
  skip
  fun c => stringChars c.rest c.index []

/-- Fails on the value that begins here, for being of the wrong kind. -/
def wrongKind {α : Type} (expected : String) : Reader α := located do
  match ← peek with
  | some 'n' => do
    skip
    word ['u', 'l', 'l']
    reject (.invalidType .null expected)
  | some 't' => do
    skip
    word ['r', 'u', 'e']
    reject (.invalidType (.bool true) expected)
  | some 'f' => do
    skip
    word ['a', 'l', 's', 'e']
    reject (.invalidType (.bool false) expected)
  | some '-' => do
    skip
    reject (.invalidType (← Numeral.read false).unexpected expected)
  | some '\x22' => do reject (.invalidType (.string (← quotedString)) expected)
  | some '[' => reject (.invalidType .sequence expected)
  | some '\x7b' => reject (.invalidType .map expected)
  | some c =>
    if c.isDigit then do reject (.invalidType (← Numeral.read true).unexpected expected)
    else failNext .expectedValue
  | none => failNext .expectedValue

/-- Whether another element follows in a list. -/
def hasElement (first : Bool) : Reader Bool := do
  match ← peekSolid with
  | some ']' => return false
  | none => failNext .endInList
  | some c =>
    if first then return true
    else if c = ',' then
      skip
      match ← peekSolid with
      | some ']' => failNext .trailingComma
      | some _ => return true
      | none => failNext .endInValue
    else failNext .expectedListCommaOrEnd

/-- Whether another key follows in an object. -/
def hasKey (first : Bool) : Reader Bool := do
  match ← peekSolid with
  | some '\x7d' => return false
  | none => failNext .endInObject
  | some c =>
    if first then
      if c = '\x22' then return true else failNext .keyMustBeString
    else if c = ',' then
      skip
      match ← peekSolid with
      | some '\x22' => return true
      | some '\x7d' => failNext .trailingComma
      | some _ => failNext .keyMustBeString
      | none => failNext .endInValue
    else failNext .expectedObjectCommaOrEnd

def colon : Reader Unit := do
  match ← peekSolid with
  | some ':' => skip
  | some _ => failNext .expectedColon
  | none => failNext .endInObject

def endOfList : Reader Unit := do
  match ← peekSolid with
  | some ']' => skip
  | some ',' => do
    skip
    match ← peekSolid with
    | some ']' => failNext .trailingComma
    | _ => failNext .trailingCharacters
  | some _ => failNext .trailingCharacters
  | none => failNext .endInList

def endOfObject : Reader Unit := do
  match ← peekSolid with
  | some '\x7d' => skip
  | some ',' => failNext .trailingComma
  | some _ => failNext .trailingCharacters
  | none => failNext .endInObject

/-- Reads the elements of a list one after the other into a state. -/
def foldElements {σ : Type} (step : σ → Reader σ) : Nat → Bool → σ → Reader σ
  | 0, _, s => return s
  | fuel + 1, first, s => do
    if ← hasElement first then foldElements step fuel false (← step s)
    else return s

/-- Reads the fields of an object; the step reads what follows the key, colon included. -/
def foldFields {σ : Type} (step : σ → String → Reader σ) : Nat → Bool → σ → Reader σ
  | 0, _, s => return s
  | fuel + 1, first, s => do
    if ← hasKey first then
      let key ← quotedString
      foldFields step fuel false (← step s key)
    else return s

/-- A list or an object whose bracket is next, one level down. -/
def nested {α : Type} (levels : Nat) (inside : Nat → Reader α) (close : Reader Unit) : Reader α :=
  match levels with
  | 0 => failNext .tooDeep
  | levels + 1 => closedBy (do skip; inside levels) close

def listOf {α : Type} (levels : Nat) (element : Nat → Reader α) : Reader (List α) :=
  nested levels (fun levels => do
    let fuel ← left
    let reversed ← foldElements (fun s => return (← element levels) :: s) (fuel + 1) true []
    return reversed.reverse) endOfList

def string : Reader String := located do
  match ← peekSolid with
  | none => failNext .endInValue
  | some '\x22' => quotedString
  | some _ => wrongKind "a string"

def sequence {α : Type} (levels : Nat) (element : Nat → Reader α) : Reader (List α) := located do
  match ← peekSolid with
  | none => failNext .endInValue
  | some '[' => listOf levels element
  | some _ => wrongKind "a sequence"

/-- The entries of an object in the order of the text. -/
def mapping {α : Type} (levels : Nat) (value : Nat → Reader α) : Reader (List (String × α)) :=
  located do
    match ← peekSolid with
    | none => failNext .endInValue
    | some '\x7b' =>
      nested levels (fun levels => do
        let fuel ← left
        let reversed ← foldFields (fun s key => do
          colon
          return (key, ← value levels) :: s) (fuel + 1) true []
        return reversed.reverse) endOfObject
    | some _ => wrongKind "a map"

/-- A value of any kind, nested as deep as there are levels. -/
def value (levels : Nat) : Reader Json := located do
  match ← peekSolid with
  | none => failNext .endInValue
  | some 'n' => do
    skip
    word ['u', 'l', 'l']
    return .null
  | some 't' => do
    skip
    word ['r', 'u', 'e']
    return .bool true
  | some 'f' => do
    skip
    word ['a', 'l', 's', 'e']
    return .bool false
  | some '-' => do
    skip
    return (← Numeral.read false).toJson
  | some '\x22' => return .string (← quotedString)
  | some '[' =>
    match levels with
    | 0 => failNext .tooDeep
    | levels + 1 => closedBy (do
        skip
        let fuel ← left
        let reversed ← foldElements (fun s => return (← value levels) :: s) (fuel + 1) true []
        return .array reversed.reverse) endOfList
  | some '\x7b' =>
    match levels with
    | 0 => failNext .tooDeep
    | levels + 1 => closedBy (do
        skip
        let fuel ← left
        let fields ← foldFields (fun fields key => do
          colon
          return Json.insertField key (← value levels) fields) (fuel + 1) true []
        return .object fields) endOfObject
  | some c =>
    if c.isDigit then return (← Numeral.read true).toJson else failNext .expectedValue

/-- Passes over the characters of a string whose opening quote was read. -/
def passString : Nat → Reader Unit
  | 0 => fail .endInString
  | fuel + 1 => do
    let i ← here
    match ← next with
    | none => fail .endInString
    | some '\x22' => return
    | some '\\' => do
      match ← next with
      | none => fail .endInString
      | some 'u' => fun c =>
        match hexEscape c.rest c.index with
        | .error e => .failed e c
        | .ok _ => passString fuel ⟨c.rest.drop 4, c.index + 4⟩
      | some d =>
        if "\x22\\/bfnrt".toList.contains d then passString fuel else failAt (i + 2) .invalidEscape
    | some c => if c.toNat < 0x20 then failAt i .controlCharacter else passString fuel

/-- After a value inside brackets, `true` for those of an object: passes over closing brackets, and
answers those still open if another value is to come. -/
def passEnds : Nat → Bool → Bool → List Bool → Reader (Option (List Bool))
  | 0, _, _, _ => return none
  | fuel + 1, accepts, object, outer => do
    match ← peekSolid with
    | none => failNext (if object then .endInObject else .endInList)
    | some c =>
      if c = ',' && accepts then
        skip
        return some (object :: outer)
      else if (c = ']' && !object) || (c = '\x7d' && object) then
        skip
        match outer with
        | [] => return none
        | object :: outer => passEnds fuel true object outer
      else if accepts then
        failNext (if object then .expectedObjectCommaOrEnd else .expectedListCommaOrEnd)
      else return some (object :: outer)

def passKey (fuel : Nat) : Reader Unit := do
  match ← peekSolid with
  | some '\x22' => do
    skip
    passString fuel
    colon
  | some _ => failNext .keyMustBeString
  | none => failNext .endInObject

/-- Passes over a value without parts, or over the bracket of one with parts, which is answered. -/
def passStart (fuel : Nat) : Reader (Option Bool) := do
  match ← peekSolid with
  | none => failNext .endInValue
  | some 'n' => do skip; word ['u', 'l', 'l']; return none
  | some 't' => do skip; word ['r', 'u', 'e']; return none
  | some 'f' => do skip; word ['a', 'l', 's', 'e']; return none
  | some '-' => do skip; Numeral.pass; return none
  | some '\x22' => do skip; passString fuel; return none
  | some '[' => do skip; return some false
  | some '\x7b' => do skip; return some true
  | some c => if c.isDigit then do Numeral.pass; return none else failNext .expectedValue

/-- Passes over a value that nobody asked for, however deep; `opened` are the brackets around it. -/
def passValue : Nat → List Bool → Reader Unit
  | 0, _ => return
  | fuel + 1, opened => do
    let bracket ← passStart (fuel + 1)
    let goOn ← match bracket, opened with
      | some object, _ => passEnds (fuel + 1) false object opened
      | none, object :: outer => passEnds (fuel + 1) true object outer
      | none, [] => pure none
    match goOn with
    | none => return
    | some [] => return
    | some (object :: outer) =>
      if object then passKey (fuel + 1)
      passValue fuel (object :: outer)

def passAny : Reader Unit := do
  let fuel ← left
  passValue (fuel + 2) []

/-- A whole text. -/
def run {α : Type} (r : Reader α) (text : String) : Except JsonFlaw α :=
  let whole : Reader α := do
    let a ← r
    match ← peekSolid with
    | some _ => failNext .trailingCharacters
    | none => return a
  match whole ⟨text.toList, 0⟩ with
  | .done a _ => .ok a
  | .failed e _ => .error e

/-- Levels of lists and objects in a text. -/
def maxLevels : Nat := 127

end Reader

def Json.parse (text : String) : Except String Json :=
  match (Reader.value Reader.maxLevels).run text with
  | .ok j => .ok j
  | .error e => .error (e.message text)

end CodeAtlas
