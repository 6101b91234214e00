import TriggerFlow.Text.Blank

/-!
# Variables in `.env` texts

A text is a sequence of bindings, each of which sets a variable to a value or names it without a
value. Names and values may be quoted, a quoted value may go over several lines, and one that is not
quoted ends at a blank before a number sign. A binding that is not well formed is skipped to the end
of its line. Values may refer to variables as `${NAME}` or, with a default, as `${NAME:-default}`.
-/

namespace TriggerFlow.Dotenv

/-- Whether a character separates words: a blank, or a separator of the control range. -/
def isSpace (c : Char) : Bool := Text.isBlank c || ('\x1c' ≤ c && c ≤ '\x1f')

/-- Whether a character separates words within a line. -/
def isGap (c : Char) : Bool := isSpace c && c != '\n'

/-- The text with all ends of lines written in one way. -/
def unifyLines : List Char → List Char
  | '\r' :: '\n' :: rest => '\n' :: unifyLines rest
  | '\r' :: rest => '\n' :: unifyLines rest
  | c :: rest => c :: unifyLines rest
  | [] => []

/-- What follows the first character of a kind, and what precedes it. -/
def splitBefore (stop : Char → Bool) (cs : List Char) : List Char × List Char :=
  (cs.takeWhile fun c => !stop c, cs.dropWhile fun c => !stop c)

/-! ### Quotes -/

/-- The text up to a closing quote, and what follows. A backslash protects the character after it. -/
def untilQuote? (quote : Char) : List Char → Option (List Char × List Char)
  | [] => none
  | ['\\'] => none
  | '\\' :: c :: rest => (untilQuote? quote rest).map fun r => ('\\' :: c :: r.1, r.2)
  | c :: rest =>
    if c == quote then some ([], rest)
    else (untilQuote? quote rest).map fun r => (c :: r.1, r.2)

/-- What an escaped character stands for, in double quotes or in single ones. -/
def escaped? (quote c : Char) : Option Char :=
  if c == '\\' || c == '\'' then some c
  else if quote == '\'' then none
  else
    match c with
    | '"' => some '"'
    | 'a' => some '\x07'
    | 'b' => some '\x08'
    | 'f' => some '\x0c'
    | 'n' => some '\n'
    | 'r' => some '\r'
    | 't' => some '\t'
    | 'v' => some '\x0b'
    | _ => none

/-- Replaces the escapes of a quoted value. -/
def unescape (quote : Char) : List Char → List Char
  | '\\' :: c :: rest =>
    match escaped? quote c with
    | some d => d :: unescape quote rest
    | none => '\\' :: unescape quote (c :: rest)
  | c :: rest => c :: unescape quote rest
  | [] => []

/-! ### Bindings -/

/-- A variable with its value, if it has one. -/
abbrev Binding := String × Option (List Char)

/-- What is read from a text; if it cannot be read, the place of the fault. -/
abbrev Reading (α : Type) := Except (List Char) α

/-- The text without an `export` in front. -/
def dropExport (cs : List Char) : List Char :=
  match cs with
  | 'e' :: 'x' :: 'p' :: 'o' :: 'r' :: 't' :: c :: rest =>
    if isGap c then rest.dropWhile isGap else cs
  | _ => cs

/-- A name, or none before a comment, and what follows. -/
def readName (cs : List Char) : Reading (Option String × List Char) :=
  let named (name after : List Char) : Reading (Option String × List Char) :=
    if name.isEmpty then .error cs else .ok (some (String.ofList name), after)
  match cs with
  | '#' :: _ => .ok (none, cs)
  | '\'' :: rest =>
    match splitBefore (· == '\'') rest with
    | (name, _ :: after) => named name after
    | (_, []) => .error cs
  | _ =>
    let (name, after) := splitBefore (fun c => c == '=' || c == '#' || isSpace c) cs
    named name after

/-- What precedes a comment: a number sign after a blank. -/
def dropComment : List Char → List Char
  | [] => []
  | c :: rest =>
    if isGap c && (rest.dropWhile isGap).head? == some '#' then [] else c :: dropComment rest

/-- The value after an equals sign, and what follows; blanks around it do not belong to it. -/
def readValue (cs : List Char) : Reading (List Char × List Char) :=
  let quotedBy (quote : Char) (rest : List Char) : Reading (List Char × List Char) :=
    match untilQuote? quote rest with
    | some (inside, after) => .ok (unescape quote inside, after)
    | none => .error cs
  match cs.dropWhile isGap with
  | '\'' :: rest => quotedBy '\'' rest
  | '"' :: rest => quotedBy '"' rest
  | _ =>
    let (line, after) := splitBefore (· == '\n') cs
    .ok ((((dropComment line).reverse.dropWhile isGap).reverse).dropWhile isGap, after)

/-- What follows the rest of a line, which may hold a comment. -/
def readEnd (cs : List Char) : Reading (List Char) :=
  let rest := cs.dropWhile isGap
  let rest := if rest.head? == some '#' then (splitBefore (· == '\n') rest).2 else rest
  match rest with
  | [] => .ok []
  | '\n' :: after => .ok after
  | _ => .error cs

/-- One binding, or none if there is but a comment, and what follows. -/
def readBinding (cs : List Char) : Reading (Option Binding × List Char) := do
  let (name, rest) ← readName (dropExport cs)
  let (value, rest) ← match rest.dropWhile isGap with
    | '=' :: tail => do
      let (value, after) ← readValue tail
      pure (some value, after)
    | rest => pure (none, rest)
  return (name.map fun n => (n, value), ← readEnd rest)

/-- The bindings of a text, in their order. Every binding takes at least one character; if one did not,
the text would be read no further. -/
def bindings (cs : List Char) : List Binding :=
  match cs.dropWhile isSpace with
  | [] => []
  | start =>
    let (found, rest) := match readBinding start with
      | .ok (binding, rest) => (binding, rest)
      | .error rest => (none, (splitBefore (· == '\n') rest).2.drop 1)
    if rest.length < cs.length then found.toList ++ bindings rest else found.toList
termination_by cs.length

/-! ### References -/

/-- The reference after a dollar sign and an opening brace: the name, the default and what
follows. -/
def reference? (cs : List Char) : Option (String × Option String × List Char) :=
  let (name, rest) := splitBefore (fun c => c == '\x7d' || c == ':') cs
  match rest with
  | '\x7d' :: after => some (String.ofList name, none, after)
  | ':' :: '-' :: rest =>
    match splitBefore (· == '\x7d') rest with
    | (fallback, _ :: after) => some (String.ofList name, some (String.ofList fallback), after)
    | (_, []) => none
  | _ => none

theorem length_splitBefore (stop : Char → Bool) (cs : List Char) :
    (splitBefore stop cs).2.length ≤ cs.length :=
  (List.dropWhile_sublist _).length_le

theorem length_lt_of_reference? {cs after : List Char} {name : String} {fallback : Option String}
    (h : reference? cs = some (name, fallback, after)) : after.length < cs.length := by
  have outer := length_splitBefore (fun c => c == '\x7d' || c == ':') cs
  unfold reference? at h
  split at h
  rename_i parts
  rw [parts] at outer
  split at h
  · cases h
    exact Nat.lt_of_lt_of_le (Nat.lt_succ_self _) outer
  · rename_i inner
    have within := length_splitBefore (· == '\x7d') inner
    split at h
    · rename_i pieces
      rw [pieces] at within
      cases h
      simp only [List.length_cons] at outer within
      omega
    · cases h
  · cases h

/-- Replaces the references; `known` gives the values of variables. -/
def expand (known : String → Option String) (cs : List Char) : List Char :=
  match cs with
  | [] => []
  | '$' :: '\x7b' :: rest =>
    match h : reference? rest with
    | some (name, fallback, after) =>
      have := length_lt_of_reference? h
      ((known name).getD (fallback.getD "")).toList ++ expand known after
    | none => '$' :: '\x7b' :: expand known rest
  | c :: rest => c :: expand known rest
termination_by cs.length

/-- Sets a variable: its value is replaced where it stands, a new variable goes to the end. -/
def setVariable (name : String) (value : Option String) :
    List (String × Option String) → List (String × Option String)
  | [] => [(name, value)]
  | (n, v) :: rest =>
    if n == name then (name, value) :: rest else (n, v) :: setVariable name value rest

/-- The variables of a text. References see the variables before them and then the environment; a
variable without a value is the empty text to them. -/
def assignments (environment : List (String × String)) (text : String) :
    List (String × Option String) :=
  (bindings (unifyLines text.toList)).foldl (fun done (name, value) =>
    let known (n : String) : Option String :=
      match done.lookup n with
      | some v => some (v.getD "")
      | none => environment.lookup n
    setVariable name (value.map fun v => String.ofList (expand known v)) done) []

/-- The environment in which the variables of a text are set. -/
def extend (environment : List (String × String)) (text : String) : List (String × String) :=
  let own := (assignments environment text).filterMap fun (name, value) =>
    value.map fun v => (name, v)
  own ++ environment.filter fun e => (own.lookup e.1).isNone

end TriggerFlow.Dotenv
