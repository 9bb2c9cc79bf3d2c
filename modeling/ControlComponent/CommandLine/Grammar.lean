/-!
How arguments are read.

A grammar is a tree of command names, with the options and operands of a command at each leaf.
Options take a value, which stands in the next word or behind an equals sign in the same one. Two
things are understood everywhere: the flag `-v`, which may be repeated, and the option that names a
log configuration; of these what stands at the deepest level holds for all. Help and version are
given as soon as they are asked for, but whether the words of a level are complete is looked at only
at its end, after the levels below it.
-/

namespace ControlComponent.CommandLine

/-- An option with a value: one of the choices, or any value if there are none. -/
structure Opt where
  name : String
  isRequired : Bool
  choices : List String

/-- An option that may be left out. -/
def Opt.optional (name : String) : Opt := ⟨name, false, []⟩

/-- An option that must be given. -/
def Opt.required (name : String) : Opt := ⟨name, true, []⟩

/-- How many operands a command takes. -/
inductive Operands where
  | none
  | one
  | oneOrMore
deriving DecidableEq

/-- What words are understood. -/
inductive Grammar where
  | command (options : List Opt) (operands : Operands)
  | choice (commands : List (String × Grammar))

/-- Why no command is run: text was asked for about the command that a path of names leads to, or
the words are not understood. -/
inductive Halt where
  | help (path : List String)
  | version (path : List String)
  | misuse
deriving DecidableEq

/-- What has been read at one level. Of the values the last one stands first; an option may still
be without its value. -/
structure Level where
  verbosity : Nat
  values : List (String × Option String)
  operands : List String

/-- What the words come to: the names of the command, and what was read at each level. -/
structure Words where
  path : List String
  levels : List Level

namespace Level

/-- A level at which nothing has been read. -/
def empty : Level := ⟨0, [], []⟩

/-- The level with the value of the last option. -/
def fill (level : Level) (value : String) : Level :=
  match level.values with
  | (name, _) :: rest => { level with values := (name, some value) :: rest }
  | [] => level

/-- The value of an option. -/
def value? (level : Level) (name : String) : Option String := (level.values.lookup name).join

/-- That every option given has a value of its choices and is given once, and that what is required
is there. -/
def isComplete (options : List Opt) (operands : Operands) (level : Level) : Bool :=
  level.values.all (fun (name, value) => value.isSome && level.values.countP (·.1 = name) == 1) &&
  options.all (fun option => match level.value? option.name with
    | some value => option.choices.isEmpty || option.choices.contains value
    | none => !option.isRequired) &&
  (operands = .none || !level.operands.isEmpty)

end Level

namespace Grammar

/-- The option that names a log configuration. -/
def logOption : Opt := .optional "log-config"

/-- The options of a level. -/
def options : Grammar → List Opt
  | command options _ => logOption :: options
  | choice _ => [logOption]

/-- The operands of a level. -/
def operands : Grammar → Operands
  | command _ operands => operands
  | choice _ => .none

/-- Whether words can end here. -/
def isCommand : Grammar → Bool
  | command _ _ => true
  | choice _ => false

/-- The grammar behind a command name. -/
def find? : Grammar → String → Option Grammar
  | command _ _, _ => none
  | choice commands, name => commands.lookup name

/-- Whether names lead to a command. -/
def explains (g : Grammar) : List String → Bool
  | [] => true
  | name :: rest =>
    match g.find? name with
    | some below => below.explains rest
    | none => false

/-- What a request for help with a command comes to. -/
def help (g : Grammar) (path names : List String) : Halt :=
  if names = ["help"] ∨ g.explains names then .help (path ++ names) else .misuse

/-- What is expected at a word: anything, the value of the last option, or only operands. -/
inductive Expected where
  | anything
  | value
  | operands
deriving DecidableEq

/-- Reads the letters behind a dash. -/
def readFlags (path : List String) (level : Level) : List Char → Except Halt Level
  | [] => .ok level
  | 'v' :: rest => readFlags path { level with verbosity := level.verbosity + 1 } rest
  | 'h' :: _ => .error (.help path)
  | 'V' :: _ => .error (.version path)
  | _ :: _ => .error .misuse

/-- Reads what stands behind the dashes of an option: its name, and perhaps a value. -/
def readOption (g : Grammar) (path : List String) (level : Level) (text : List Char) :
    Except Halt (Level × Expected) :=
  let name := String.ofList (text.takeWhile (· ≠ '='))
  if g.options.any (·.name = name) then
    match text.dropWhile (· ≠ '=') with
    | [] => .ok ({ level with values := (name, none) :: level.values }, .value)
    | _ :: value =>
      let value := String.ofList (value.dropWhile (· = '='))
      .ok ({ level with values := (name, some value) :: level.values }, .anything)
  else if name = "help" then .error (.help path)
  else if name = "version" then .error (.version path)
  else .error .misuse

/-- Reads an operand. -/
def readOperand (g : Grammar) (level : Level) (word : String) : Except Halt Level :=
  if g.operands = .oneOrMore ∨ (g.operands = .one ∧ level.operands.isEmpty) then
    .ok { level with operands := level.operands ++ [word] }
  else .error .misuse

/-- Whether a word can be nothing but a flag, an option or the mark before operands. -/
def isDashed (word : List Char) : Bool := word.head? = some '-' && word ≠ ['-']

/-- Reads a word that is neither a command name nor a value. -/
def readWord (g : Grammar) (path : List String) (level : Level) (word : String) :
    Except Halt (Level × Expected) :=
  let chars := word.toList
  let text := chars.dropWhile (· = '-')
  if chars.take 2 = ['-', '-'] then readOption g path level text
  else if isDashed chars then (readFlags path level text).map (·, .anything)
  else (readOperand g level word).map (·, .anything)

/-- Reads words from some level on. -/
def readFrom (g : Grammar) (path : List String) (level : Level) (expected : Expected) :
    List String → Except Halt Words
  | [] =>
    if g.isCommand && level.isComplete g.options g.operands then .ok ⟨[], [level]⟩
    else .error .misuse
  | word :: rest =>
    if expected = .operands then do
      readFrom g path (← readOperand g level word) .operands rest
    else if word = "--" then readFrom g path level .operands rest
    else if expected = .value ∧ !isDashed word.toList then
      readFrom g path (level.fill word) .anything rest
    else
      match g.find? word with
      | some below =>
        match readFrom below (path ++ [word]) .empty .anything rest with
        | .error halt => .error halt
        | .ok words =>
          if level.isComplete g.options .none then
            .ok ⟨word :: words.path, level :: words.levels⟩
          else .error .misuse
      | none => do
        if !g.isCommand && word = "help" then throw (g.help path rest)
        let (level, expected) ← readWord g path level word
        readFrom g path level expected rest

/-- Reads words. -/
def read (g : Grammar) (words : List String) : Except Halt Words :=
  readFrom g [] .empty .anything words

end Grammar

namespace Words

/-- What was read at the deepest level. -/
def last (words : Words) : Level := words.levels.getLast?.getD .empty

/-- How often the flag was given at the deepest level that has it. -/
def verbosity (words : Words) : Nat :=
  ((words.levels.map (·.verbosity)).filter (· ≠ 0)).getLast?.getD 0

/-- The log configuration that is named at the deepest level that names one. -/
def logSettings (words : Words) : Option String :=
  (words.levels.filterMap (·.value? Grammar.logOption.name)).getLast?

end Words
end ControlComponent.CommandLine
