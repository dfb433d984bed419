import Fleet.Json.Parser

/-!
# Reading some members of an object

`parseMembers?` reads the members of an object that have one of some names, and passes over the
others. What is passed over follows the grammar of JSON, but it need not have a value: there an
escape may write half of a surrogate pair, and arrays and objects nest as deep as they like.
-/

namespace Fleet.Json

/-- The text behind a string that is passed over, from behind its opening quote. -/
def passString : List Char → Option (List Char)
  | [] => none
  | '"' :: rest => some rest
  | '\\' :: 'u' :: a :: b :: c :: d :: rest =>
    if (hex4? a b c d).isSome then passString rest else none
  | '\\' :: c :: rest => if (escaped? c).isSome then passString rest else none
  | c :: rest => if c.toNat < 0x20 || c == '\\' then none else passString rest

/-- The text behind a literal name. -/
def passWord (word : List Char) (cs : List Char) : Option (List Char) :=
  if word.isPrefixOf cs then some (cs.drop word.length) else none

mutual

/-- The text behind a value that is passed over. -/
def passValue : Nat → List Char → Option (List Char)
  | 0, _ => none
  | budget + 1, cs =>
    match skipSpace cs with
    | [] => none
    | '"' :: rest => passString rest
    | '[' :: rest =>
      match skipSpace rest with
      | ']' :: rest => some rest
      | rest => passItems budget rest
    | '\x7b' :: rest =>
      match skipSpace rest with
      | '\x7d' :: rest => some rest
      | rest => passMembers budget rest
    | 't' :: rest => passWord "rue".toList rest
    | 'f' :: rest => passWord "alse".toList rest
    | 'n' :: rest => passWord "ull".toList rest
    | cs => (readNumber cs).map (·.2)

/-- The text behind the items of an array and its end. -/
def passItems : Nat → List Char → Option (List Char)
  | 0, _ => none
  | budget + 1, cs =>
    match passValue budget cs with
    | none => none
    | some rest =>
      match skipSpace rest with
      | ',' :: rest => passItems budget rest
      | ']' :: rest => some rest
      | _ => none

/-- The text behind the members of an object and its end. -/
def passMembers : Nat → List Char → Option (List Char)
  | 0, _ => none
  | budget + 1, cs =>
    match skipSpace cs with
    | '"' :: rest =>
      match (passString rest).map skipSpace with
      | some (':' :: rest) =>
        match (passValue budget rest).map skipSpace with
        | some (',' :: rest) => passMembers budget rest
        | some ('\x7d' :: rest) => some rest
        | _ => none
      | _ => none
    | _ => none

end

/-- The members of an object up to its end, as far as they have one of the names. -/
def selectMembers (names : List String) :
    Nat → List Char → Option (List (String × Json) × List Char)
  | 0, _ => none
  | budget + 1, cs =>
    match skipSpace cs with
    | '"' :: rest =>
      match readString [] rest with
      | none => none
      | some (name, rest) =>
        match skipSpace rest with
        | ':' :: rest =>
          let name := String.ofList name
          let member : Option (List (String × Json) × List Char) :=
            if names.contains name then
              (readValue (budgetFor rest) (depthLimit - 1) rest).map fun (value, rest) =>
                ([(name, value)], rest)
            else (passValue (budgetFor rest) rest).map fun rest => ([], rest)
          match member with
          | none => none
          | some (selected, rest) =>
            match skipSpace rest with
            | ',' :: rest =>
              (selectMembers names budget rest).map fun (more, rest) => (selected ++ more, rest)
            | '\x7d' :: rest => some (selected, rest)
            | _ => none
        | _ => none
    | _ => none

/-- The members of the object that a text writes, as far as they have one of the names. -/
def parseMembers? (names : List String) (s : String) : Option (List (String × Json)) :=
  match skipSpace s.toList with
  | '\x7b' :: rest =>
    let members := match skipSpace rest with
      | '\x7d' :: rest => some ([], rest)
      | rest => selectMembers names (budgetFor rest) rest
    match members with
    | some (members, rest) => if (skipSpace rest).isEmpty then some members else none
    | none => none
  | _ => none

example : (parse? "\x7b\"b\": [\"\\ud800\"], \"a\": 1\x7d").isNone := by decide +kernel
example : (parseMembers? ["a"] "\x7b\"b\": [\"\\ud800\"], \"a\": 1\x7d").isSome := by
  decide +kernel

end Fleet.Json
