import LocalRepair.Scheme.Basic

/-!
# Command-line arguments

A command line is a command with options before and behind it.  Options that choose the scheme and
the form of the output may stand on either side, and the one behind the command counts where both
are given; options of a command stand behind it.  On one side an option may be given once, except
that lists of blocks add up.  A value follows its option as the next word, which must not begin
with a dash, or after an equals sign.
-/

namespace LocalRepair.CommandLine

inductive CommandName where
  | place
  | encode
  | decode
  | verify
  | tradeoff
  | cost
deriving DecidableEq, Repr

def CommandName.ofText? : String → Option CommandName
  | "place" => some .place
  | "encode" => some .encode
  | "decode" => some .decode
  | "verify" => some .verify
  | "tradeoff" => some .tradeoff
  | "cost" => some .cost
  | _ => none

/-- The options given on one side of the command. -/
structure Options where
  json : Bool := false
  metrics : Bool := false
  logJson : Bool := false
  logLevel : Option String := none
  policyFile : Option String := none
  policyId : Option String := none
  kind : Option SchemeKind := none
  k : Option Nat := none
  l : Option Nat := none
  g : Option Nat := none
  eta : Option Nat := none
  approach : Option Approach := none
  subpackets : Option Nat := none
  failed : Option Nat := none
  available : Option (List Nat) := none
  blockSize : Option Nat := none
  seed : Option Nat := none

inductive OptionForm where
  | flag
  | valued
deriving DecidableEq, Repr

/-- The form of an option, if it may stand before or behind the given command. -/
def optionForm? (command? : Option CommandName) (name : String) : Option OptionForm :=
  if ["json", "metrics", "log-json"].contains name then some .flag
  else if ["log-level", "policy-file", "policy-id", "scheme", "k", "l", "g", "eta", "approach",
      "w"].contains name then some .valued
  else
    match command? with
    | some .decode => if ["failed", "available"].contains name then some .valued else none
    | some .verify => if ["failed", "block-size", "seed"].contains name then some .valued else none
    | _ => none

def natural? (word : String) : Option Nat :=
  (Text.readInteger .unsigned64 10 word.toList).toOption.map Int.toNat

/-- The numbers that a word lists, separated by commas. -/
def naturals? (word : String) : Option (List Nat) :=
  (word.splitOn ",").mapM natural?

/-- A value that is given now and must not have been given before. -/
def once {α : Type} (before now : Option α) : Option (Option α) :=
  match before, now with
  | none, some value => some (some value)
  | _, _ => none

namespace Options

def raise (options : Options) (name : String) : Option Options :=
  match name with
  | "json" => if options.json then none else some { options with json := true }
  | "metrics" => if options.metrics then none else some { options with metrics := true }
  | "log-json" => if options.logJson then none else some { options with logJson := true }
  | _ => none

def give (options : Options) (name value : String) : Option Options := do
  match name with
  | "log-level" => some { options with logLevel := ← once options.logLevel (some value) }
  | "policy-file" => some { options with policyFile := ← once options.policyFile (some value) }
  | "policy-id" => some { options with policyId := ← once options.policyId (some value) }
  | "scheme" => some { options with kind := ← once options.kind (SchemeKind.ofName? value) }
  | "k" => some { options with k := ← once options.k (natural? value) }
  | "l" => some { options with l := ← once options.l (natural? value) }
  | "g" => some { options with g := ← once options.g (natural? value) }
  | "eta" => some { options with eta := ← once options.eta (natural? value) }
  | "approach" =>
    some { options with approach := ← once options.approach (Approach.ofName? value) }
  | "w" => some { options with subpackets := ← once options.subpackets (natural? value) }
  | "failed" => some { options with failed := ← once options.failed (natural? value) }
  | "available" =>
    some { options with available := some (options.available.getD [] ++ (← naturals? value)) }
  | "block-size" => some { options with blockSize := ← once options.blockSize (natural? value) }
  | "seed" => some { options with seed := ← once options.seed (natural? value) }
  | _ => none

/-- A policy file needs the id of a policy on the same side. -/
def isComplete (options : Options) : Bool :=
  options.policyFile.isNone || options.policyId.isSome

def merge (outer inner : Options) : Options where
  json := outer.json || inner.json
  metrics := outer.metrics || inner.metrics
  logJson := outer.logJson || inner.logJson
  logLevel := inner.logLevel <|> outer.logLevel
  policyFile := inner.policyFile <|> outer.policyFile
  policyId := inner.policyId <|> outer.policyId
  kind := inner.kind <|> outer.kind
  k := inner.k <|> outer.k
  l := inner.l <|> outer.l
  g := inner.g <|> outer.g
  eta := inner.eta <|> outer.eta
  approach := inner.approach <|> outer.approach
  subpackets := inner.subpackets <|> outer.subpackets
  failed := inner.failed
  available := inner.available
  blockSize := inner.blockSize
  seed := inner.seed

end Options

inductive Command where
  | place
  | encode
  | decode (failed : Nat) (available : Option (List Nat))
  /-- Encode a made-up stripe, lose blocks, decode and compare. -/
  | verify (failed : Option Nat) (blockSize seed : Nat)
  | tradeoff
  | cost
deriving DecidableEq, Repr

inductive SchemeSource where
  /-- The policy with an id, in a file that should be named too. -/
  | policy (file : Option String) (id : String)
  /-- The parameters are on the command line. -/
  | parameters (kind : SchemeKind) (shape : Shape) (eta : Nat) (approach : Approach)
      (subpackets : Nat)
deriving DecidableEq, Repr

structure Invocation where
  command : Command
  source : SchemeSource
  json : Bool
  metrics : Bool
deriving DecidableEq, Repr

inductive Parsed where
  | run (invocation : Invocation)
  | version
  | help
  | malformed
deriving DecidableEq, Repr

namespace Options

/-- The source of the scheme.  Without parameters it is the tunable (9, 3, 3) code. -/
def source (options : Options) : SchemeSource :=
  match options.policyId with
  | some id => .policy options.policyFile id
  | none =>
    .parameters (options.kind.getD .tradeoff)
      ⟨options.k.getD 9, options.l.getD 3, options.g.getD 3⟩ (options.eta.getD 0)
      (options.approach.getD .repair) (options.subpackets.getD 1)

/-- The command with its options, if they are complete. -/
def command? (options : Options) : CommandName → Option Command
  | .place => some .place
  | .encode => some .encode
  | .decode => options.failed.map fun failed => .decode failed options.available
  | .verify =>
    some (.verify options.failed (options.blockSize.getD 4096) (options.seed.getD 1))
  | .tradeoff => some .tradeoff
  | .cost => some .cost

end Options

/-- What the options before and behind a command ask for. -/
def invocation? (name : CommandName) (outer inner : Options) : Option Invocation :=
  if outer.isComplete && inner.isComplete then do
    let options := outer.merge inner
    some ⟨← options.command? name, options.source, options.json, options.metrics⟩
  else none

/-- The words of which a command line consists. -/
inductive Word where
  /-- Nothing behind it is an option. -/
  | separator
  /-- An option by its name, with the value after an equals sign. -/
  | long (name : String) (value : Option String)
  /-- Letters behind a single dash. -/
  | short (letters : List Char)
  | plain (text : String)
deriving DecidableEq, Repr

/-- The form of a word.  A dash alone is a plain word. -/
def Word.ofText (text : String) : Word :=
  match text.toList with
  | ['-', '-'] => .separator
  | '-' :: '-' :: rest =>
    let name := rest.takeWhile (· ≠ '=')
    match rest.drop name.length with
    | _ :: value => .long (String.ofList name) (some (String.ofList value))
    | [] => .long (String.ofList name) none
  | '-' :: letter :: rest => .short (letter :: rest)
  | _ => .plain text

/-- Whether a word can be the value of the option before it. -/
def isValue (text : String) : Bool :=
  match Word.ofText text with
  | .plain _ => true
  | _ => false

/-- Whether help is there for the words behind `help`: for none, for a command or for `help`. -/
def isHelpTopic : List String → Bool
  | [] => true
  | [text] => text = "help" || (CommandName.ofText? text).isSome
  | _ => false

/-- Reads the words of one side.  `name?` is the command before them and `outer` the options
before the command.  That a value in a word of its own is wrong shows only at the next option or at
the end, so help that a command right behind it is asked for comes first. -/
def readWords : List String → Option CommandName → Options → Options → Parsed
  | [], none, _, _ => .malformed
  | [], some name, outer, options =>
    match invocation? name outer options with
    | some invocation => .run invocation
    | none => .malformed
  | text :: rest, name?, outer, options =>
    match Word.ofText text with
    | .separator =>
      match rest, name? with
      | [], some name =>
        match invocation? name outer options with
        | some invocation => .run invocation
        | none => .malformed
      | _, _ => .malformed
    | .short ('h' :: _) => .help
    | .short ('V' :: _) => if name?.isNone then .version else .malformed
    | .short _ => .malformed
    | .long "help" none => .help
    | .long "version" none => if name?.isNone then .version else .malformed
    | .long name value? =>
      match optionForm? name? name, value?, rest with
      | some .flag, none, rest =>
        match options.raise name with
        | some options => readWords rest name? outer options
        | none => .malformed
      | some .valued, some value, rest =>
        match options.give name value with
        | some options => readWords rest name? outer options
        | none => .malformed
      | some .valued, none, value :: rest =>
        if isValue value then
          match options.give name value with
          | some options => readWords rest name? outer options
          | none =>
            if rest.head?.any isValue && readWords rest name? outer options = .help then .help
            else .malformed
        else .malformed
      | _, _, _ => .malformed
    | .plain text =>
      match name?, CommandName.ofText? text with
      | none, some name => readWords rest (some name) options {}
      | none, none => if text = "help" && isHelpTopic rest then .help else .malformed
      | some _, _ => .malformed

/-- What the words of a command line ask for. -/
def parse (arguments : List String) : Parsed :=
  readWords arguments none {} {}

end LocalRepair.CommandLine
