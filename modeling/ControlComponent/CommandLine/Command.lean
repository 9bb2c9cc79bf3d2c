import ControlComponent.CommandLine.Grammar

/-!
The commands of the program, and the words that give them.
-/

namespace ControlComponent.CommandLine

/-- Where the keyring is and what opens it, as far as the words tell. -/
structure Access where
  keystore : Option String
  password : Option String
deriving DecidableEq

/-- What can be done. -/
inductive Command where
  | newKey
  | newRoot (subject : String)
  | issue (subject issuer issuerSecret publicKey : String)
  | newKeyring (access : Access) (platformCa nodeCa nodeCaSecret : String)
  | newSetKeys (access : Access) (electionId setId group length : String)
  | newSigningKey (access : Access) (electionId : String)
  | process (access : Access) (kind : Option String) (state : String) (inputs : List String)
deriving DecidableEq

/-- What is to be done, and what is to be logged. -/
structure Invocation where
  command : Command
  verbosity : Nat
  logSettings : Option String
deriving DecidableEq

/-! ### Words -/

/-- The options that tell where the keyring is and what opens it. -/
def Access.options : List Opt := [.optional "keystore", .optional "password"]

/-- The words of the program. -/
def grammar : Grammar :=
  .choice
    [("keygen", .command [] .none),
      ("certificate", .choice
        [("root", .command [] .one),
          ("issue", .command
            [.required "issuer", .required "issuer-secret", .required "public-key"] .one)]),
      ("init", .command (Access.options ++
        [.required "platform-ca", .required "node-ca", .required "node-ca-secret"]) .none),
      ("keys", .choice
        [("return-codes", .command (Access.options ++
            [.required "election-event-id", .required "verification-card-set-id",
              .required "group", .required "length"]) .none),
          ("election-signing", .command
            (Access.options ++ [.required "election-event-id"]) .none)]),
      ("process", .command (Access.options ++
        [⟨"kind", false, ["generation", "decryption", "exponentiation"]⟩, .optional "state"])
        .oneOrMore)]

/-- The state file of a node that is not told another. -/
def defaultState : String := "returncodes-state.json"

/-- Where the keyring is, according to a level. -/
def Access.ofLevel (level : Level) : Access := ⟨level.value? "keystore", level.value? "password"⟩

/-- The command of words that the grammar has accepted. -/
def Command.ofWords (words : Words) : Except Halt Command :=
  let level := words.last
  let value (name : String) : String := (level.value? name).getD ""
  let operand := level.operands.head?.getD ""
  let access := Access.ofLevel level
  match words.path with
  | ["keygen"] => .ok .newKey
  | ["certificate", "root"] => .ok (.newRoot operand)
  | ["certificate", "issue"] =>
    .ok (.issue operand (value "issuer") (value "issuer-secret") (value "public-key"))
  | ["init"] =>
    .ok (.newKeyring access (value "platform-ca") (value "node-ca") (value "node-ca-secret"))
  | ["keys", "return-codes"] =>
    .ok (.newSetKeys access (value "election-event-id") (value "verification-card-set-id")
      (value "group") (value "length"))
  | ["keys", "election-signing"] => .ok (.newSigningKey access (value "election-event-id"))
  | ["process"] =>
    .ok (.process access (level.value? "kind") ((level.value? "state").getD defaultState)
      level.operands)
  | _ => .error .misuse

/-- What words ask for. -/
def Invocation.ofWords (words : List String) : Except Halt Invocation := do
  let words ← grammar.read words
  return ⟨← Command.ofWords words, words.verbosity, words.logSettings⟩

/-! ### Text -/

/-- The name of the program. -/
def program : String := "returncodes-node"

/-- The text about a command's version; only the whole program has one. -/
def versionText (path : List String) : String :=
  if path.isEmpty then "Return codes control component 0.1"
  else "-".intercalate (program :: path) ++ " "

/-- The text about a command's words. -/
def usageText (path : List String) : String :=
  "USAGE: " ++ " ".intercalate (program :: path) ++ " [-v]... [--log-config <log-config>] ..."

end ControlComponent.CommandLine
