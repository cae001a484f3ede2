/-! # Log records

What a client does is told in log records. A record has a level, the part of the client that it
comes from, and a text. A traced computation keeps the records it made even when it fails. Its outcome
is that of its stages one after another: no record has a part in it.
-/

namespace NodeClient

/-- How important a record is. -/
inductive LogLevel where
  | trace
  | debug
  | info
  | warning
  deriving Repr, DecidableEq

namespace LogLevel

/-- Every level, least important first. -/
def all : List LogLevel := [.trace, .debug, .info, .warning]

def name : LogLevel → String
  | .trace => "TRACE"
  | .debug => "DEBUG"
  | .info => "INFO"
  | .warning => "WARNING"

def rank : LogLevel → Nat
  | .trace => 5
  | .debug => 10
  | .info => 20
  | .warning => 30

def ofName? (text : String) : Option LogLevel := all.find? fun level => level.name == text

end LogLevel

/-- The part of a client that makes records. -/
inductive LogSource where
  | client
  | transport
  | credentials
  | profile
  | settings
  deriving Repr, DecidableEq

def LogSource.name : LogSource → String
  | .client => "corerpc.client"
  | .transport => "corerpc.rpc.transport"
  | .credentials => "corerpc.rpc.auth"
  | .profile => "corerpc.profile.table"
  | .settings => "corerpc.config.loader"

structure LogRecord where
  level : LogLevel
  source : LogSource
  text : String
  deriving Repr, DecidableEq

/-- The outcome of a computation with the records it made. -/
structure Traced (ε α : Type) where
  records : List LogRecord
  outcome : Except ε α

namespace Traced

variable {ε δ α β : Type}

/-- An outcome without records. -/
def ofExcept (outcome : Except ε α) : Traced ε α := ⟨[], outcome⟩

def fail (error : ε) : Traced ε α := ⟨[], .error error⟩

def note (record : LogRecord) : Traced ε Unit := ⟨[record], .ok ()⟩

def record (level : LogLevel) (source : LogSource) (text : String) : Traced ε Unit :=
  note ⟨level, source, text⟩

/-- Goes on with a successful outcome and keeps the records of both. -/
def andThen (first : Traced ε α) (next : α → Traced ε β) : Traced ε β :=
  match first.outcome with
  | .error error => ⟨first.records, .error error⟩
  | .ok value => ⟨first.records ++ (next value).records, (next value).outcome⟩

instance : Monad (Traced ε) where
  pure value := ⟨[], .ok value⟩
  bind := andThen

/-- The same computation with another form of its errors. -/
def mapError (convert : ε → δ) (traced : Traced ε α) : Traced δ α :=
  ⟨traced.records, traced.outcome.mapError convert⟩

@[simp] theorem andThen_outcome (first : Traced ε α) (next : α → Traced ε β) :
    (first.andThen next).outcome = first.outcome.bind fun value => (next value).outcome := by
  cases ended : first.outcome <;> simp only [andThen, ended, Except.bind]

@[simp] theorem bind_outcome (first : Traced ε α) (next : α → Traced ε β) :
    (first >>= next).outcome = first.outcome.bind fun value => (next value).outcome :=
  andThen_outcome first next

@[simp] theorem ofExcept_outcome (outcome : Except ε α) : (ofExcept outcome).outcome = outcome :=
  rfl

/-- Going on with a value is the rest of the computation. -/
@[simp] theorem ofExcept_ok_bind (value : α) (next : α → Traced ε β) :
    (ofExcept (.ok value) >>= next) = next value := rfl

end Traced

end NodeClient
