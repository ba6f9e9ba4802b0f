import LocalRepair.Scheme.Kind
import LocalRepair.Text.Bracketed
import LocalRepair.Text.Integer
import LocalRepair.Text.Quoted

/-!
# Errors

Everything that a request can be refused for, as causes with the data that they concern.  `reason`
is the short label under which refusals are counted, and `message` is the wording.
-/

namespace LocalRepair

open Text (bracketed quoted)

/-- Why the parameters of a code, a placement, a scheme or a policy file are refused. -/
inductive ConfigError where
  | noData
  | noLocalGroups
  /-- The local groups cannot have equally many data blocks. -/
  | indivisible (k l : Nat)
  /-- A stripe has more blocks than the field has elements. -/
  | tooWide (n : Nat)
  /-- The announced width is not that of the code. -/
  | widthMismatch (n width : Nat)
  | noSubpackets
  | noGlobalParity
  /-- The granularity is above its largest useful value. -/
  | granularity (eta limit : Nat)
  /-- A fixed placement does not fit the code. -/
  | fixedShape (kind : SchemeKind) (k l g : Nat)
  /-- A placement names a block that the stripe does not have. -/
  | blockOutside (block n : Nat)
  | blockRepeated (block : Nat)
  | blockOmitted (block : Nat)
  /-- A fault domain holds more blocks than its loss may take. -/
  | crowdedDomain (position held spanned limit : Nat)
  | parameterCount (kind : SchemeKind) (given : Nat)
  | parameterText (name text : String) (fault : Text.IntegerFault)
  | parameterSign (name : String) (value : Int)
  | unknownKind (name : String)
  | unknownApproach (name : String)
  | duplicatePolicy (id : String)
  | unknownPolicy (id : String)
deriving DecidableEq, Repr

/-- Why a decode request makes no sense. -/
inductive RequestError where
  | noFailedBlock
  /-- A block is not one of the stripe. -/
  | blockOutside (block n : Nat)
  | unplaced (block : Nat)
  | domainOutside (position count : Nat)
  | domainWithoutData (position : Nat)
  /-- The block is not one of the data blocks that the domain loses. -/
  | notLost (block : Nat) (domain : List Nat)
deriving DecidableEq, Repr

/-- Why the blocks that survive a domain do not determine its data. -/
inductive RecoveryError where
  /-- The equations speak of different numbers of unknowns. -/
  | ragged
  /-- The equations are dependent. -/
  | singular (domain : List Nat) (size : Nat)
  /-- A local group needs more global parities than survive. -/
  | shortOfGlobals (group g : Nat) (domain : List Nat)
  /-- There are not as many equations as unknowns. -/
  | unbalanced (domain : List Nat) (equations lost : Nat)
deriving DecidableEq, Repr

/-- Why a repair graph is malformed. -/
inductive GraphError where
  | noSources (target : Nat)
  /-- A node has not one coefficient for each source. -/
  | arity (target sources coefficients : Nat)
  | readsItself (target : Nat)
  | alreadyDefined (target : Nat)
  | unknownNode (target : Nat)
  | alreadyBound (target : Nat)
  | readsOwnUnit (target source : Nat)
  /-- Units wait for one another. -/
  | cycle
deriving DecidableEq, Repr

/-- Why a policy file cannot be read. -/
inductive FileError where
  | missing
  /-- Its path leads on from something that is no directory. -/
  | notDirectory
  | isDirectory
  | nameTooLong
  | notText
  /-- Any other failure, in the words of the system. -/
  | other (description : String)
deriving DecidableEq, Repr

/-- Why an operation is refused or fails. -/
inductive Error where
  | file (cause : FileError)
  /-- A policy file is not a document of the expected form. -/
  | document
  | config (cause : ConfigError)
  | multipleFailures (failed : List Nat)
  /-- Maintenance is asked for a parity block. -/
  | parityMaintenance (block : Nat)
  | unknownApproachCode (code : Int)
  /-- Blocks of the failed block's domain are still available. -/
  | maintenancePrecondition (block : Nat) (alive : List Nat)
  | recovery (cause : RecoveryError)
  | request (cause : RequestError)
  | singularMatrix (size : Nat)
  | divisionByZero
  | graph (cause : GraphError)
  /-- A computation needs a block that is neither present nor computed before. -/
  | missingBlock (index : Nat)
  /-- Numbers or lengths of buffers disagree. -/
  | sizeMismatch (expected actual : Nat)
  /-- A matrix is read beyond the entries that it stores. -/
  | outOfBounds
deriving DecidableEq, Repr

namespace ConfigError

def message : ConfigError → String
  | .noData => "k must be greater than 0"
  | .noLocalGroups => "l must be greater than 0"
  | .indivisible k l => s!"k={k} is not divisible by l={l}"
  | .tooWide n => s!"stripe width n={n} exceeds 256"
  | .widthMismatch n width => s!"n={n} does not equal k+l+g={width}"
  | .noSubpackets => "w must be greater than 0"
  | .noGlobalParity => "tradeoff placement needs at least one global parity"
  | .granularity eta limit => s!"eta={eta} exceeds ceil(b/(g+1))={limit}"
  | .fixedShape kind k l g =>
    s!"{kind.className} is only defined for (k,l,g)=(10,2,2), got ({k},{l},{g})"
  | .blockOutside block n => s!"placement references block {block} outside [0, {n})"
  | .blockRepeated block => s!"placement lists block {block} more than once"
  | .blockOmitted block => s!"placement omits block {block}"
  | .crowdedDomain position held spanned limit =>
    s!"fault domain {position} holds {held} blocks but spans only {spanned} local groups " ++
      s!"(limit {limit})"
  | .parameterCount kind given =>
    let names := ",".intercalate kind.parameterNames
    let expected := kind.parameterNames.length
    s!"{kind.className} expects {expected} params ({names}), got {given}"
  | .parameterText name text fault =>
    s!"param {name}={quoted text} is not an integer: {fault.message}"
  | .parameterSign name value => s!"param {name} must be non-negative, got {value}"
  | .unknownKind name => s!"unrecognized scheme class: {name}"
  | .unknownApproach name => s!"unrecognized approach: {name}"
  | .duplicatePolicy id => s!"duplicate policy id: {id}"
  | .unknownPolicy id => s!"unknown policy id: {id}"

end ConfigError

namespace RequestError

def message : RequestError → String
  | .noFailedBlock => "no failed block given"
  | .blockOutside block n => s!"block index {block} outside [0, {n})"
  | .unplaced block => s!"block {block} is not placed"
  | .domainOutside position count => s!"fault domain {position} outside [0, {count})"
  | .domainWithoutData position => s!"fault domain {position} holds no data blocks"
  | .notLost block domain =>
    s!"block {block} is not a lost data block of domain {bracketed domain}"

end RequestError

def singularMessage (size : Nat) : String :=
  s!"Matrix of size {size} is singular over GF(2^8)"

namespace RecoveryError

def message : RecoveryError → String
  | .ragged => "ragged recovery matrix"
  | .singular domain size =>
    s!"recovery matrix for domain {bracketed domain} is not invertible: " ++
      singularMessage size
  | .shortOfGlobals group g domain =>
    s!"local group {group} needs more than {g} global parities " ++
      s!"outside domain {bracketed domain}"
  | .unbalanced domain equations lost =>
    s!"domain {bracketed domain} yields {equations} equations for {lost} lost data blocks"

end RecoveryError

namespace GraphError

def message : GraphError → String
  | .noSources target => s!"node {target} has no sources"
  | .arity target sources coefficients =>
    s!"node {target} has {sources} sources but {coefficients} coefficients"
  | .readsItself target => s!"node {target} depends on itself"
  | .alreadyDefined target => s!"node {target} is already defined"
  | .unknownNode target => s!"cannot bind unknown node {target}"
  | .alreadyBound target => s!"node {target} is already bound"
  | .readsOwnUnit target source =>
    s!"bound node {target} depends on node {source} of the same unit"
  | .cycle => "dependency cycle detected"

end GraphError

namespace FileError

def message : FileError → String
  | .missing => "No such file or directory (os error 2)"
  | .notDirectory => "Not a directory (os error 20)"
  | .isDirectory => "Is a directory (os error 21)"
  | .nameTooLong => "File name too long (os error 36)"
  | .notText => "stream did not contain valid UTF-8"
  | .other description => description

/-- The failure that the system reports by a number, with its words for it. -/
def ofCode (code : Nat) (description : String) : FileError :=
  match code with
  | 2 => .missing
  | 20 => .notDirectory
  | 21 => .isDirectory
  | 36 => .nameTooLong
  | _ => .other description

end FileError

/-- The labels under which refusals are counted. -/
inductive Reason where
  | io
  | yaml
  | config
  | unsupportedMultiFailure
  | unsupportedParityMaintenance
  | unsupportedApproach
  | maintenancePrecondition
  | recoverySystemInvariant
  | invalidRequest
  | singularMatrix
  | divisionByZero
  | graph
  | missingBlock
  | bufferSizeMismatch
  | metrics
  | outOfBounds
deriving DecidableEq, Repr

namespace Reason

def label : Reason → String
  | .io => "io"
  | .yaml => "yaml"
  | .config => "config"
  | .unsupportedMultiFailure => "unsupported_multi_failure"
  | .unsupportedParityMaintenance => "unsupported_parity_maintenance"
  | .unsupportedApproach => "unsupported_approach"
  | .maintenancePrecondition => "maintenance_precondition"
  | .recoverySystemInvariant => "recovery_system_invariant"
  | .invalidRequest => "invalid_request"
  | .singularMatrix => "singular_matrix"
  | .divisionByZero => "division_by_zero"
  | .graph => "graph"
  | .missingBlock => "missing_block"
  | .bufferSizeMismatch => "buffer_size_mismatch"
  | .metrics => "metrics"
  | .outOfBounds => "out_of_bounds"

end Reason

namespace Error

def reason : Error → Reason
  | .file _ => .io
  | .document => .yaml
  | .config _ => .config
  | .multipleFailures _ => .unsupportedMultiFailure
  | .parityMaintenance _ => .unsupportedParityMaintenance
  | .unknownApproachCode _ => .unsupportedApproach
  | .maintenancePrecondition _ _ => .maintenancePrecondition
  | .recovery _ => .recoverySystemInvariant
  | .request _ => .invalidRequest
  | .singularMatrix _ => .singularMatrix
  | .divisionByZero => .divisionByZero
  | .graph _ => .graph
  | .missingBlock _ => .missingBlock
  | .sizeMismatch _ _ => .bufferSizeMismatch
  | .outOfBounds => .outOfBounds

def message : Error → String
  | .file cause => s!"I/O error: {cause.message}"
  | .document => "Failed to parse policy file: unexpected document"
  | .config cause => s!"Configuration error: {cause.message}"
  | .multipleFailures failed =>
    s!"Multi-block recovery is not supported: failed blocks {bracketed failed}"
  | .parityMaintenance block => s!"Maintenance of parity block {block} is not supported"
  | .unknownApproachCode code => s!"Unsupported decode approach: {code}"
  | .maintenancePrecondition block alive =>
    s!"Maintenance precondition violated for block {block}: " ++
      s!"fault domain members {bracketed alive} are still available"
  | .recovery cause => s!"Recovery system invariant violated: {cause.message}"
  | .request cause => s!"Invalid decode request: {cause.message}"
  | .singularMatrix size => singularMessage size
  | .divisionByZero => "Division by zero in GF(2^8)"
  | .graph cause => s!"Dependency graph error: {cause.message}"
  | .missingBlock index => s!"Block {index} is not available for computation"
  | .sizeMismatch expected actual =>
    s!"Buffer size mismatch: expected {expected} bytes, got {actual}"
  | .outOfBounds => "access beyond the stored entries"

/-- The value of a read, which is an error where nothing is stored. -/
def stored {α : Type} : Option α → Except Error α
  | some value => .ok value
  | none => .error .outOfBounds

def ensure (condition : Prop) [Decidable condition] (error : Error) : Except Error Unit :=
  if condition then .ok () else .error error

end Error

end LocalRepair
