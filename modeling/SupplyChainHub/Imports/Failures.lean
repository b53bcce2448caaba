import Mathlib.Algebra.Group.Nat.Defs
import Mathlib.Data.List.Basic

/-!
Settings of the import path, the exceptions a worker can meet, and the retry policy
(`settings/config.py`, `classify_import_failure`, `calculate_retry_delay`).
-/

namespace SupplyChainHub

/-- The import settings, with the bounds their `Field` declarations enforce. -/
structure Settings where
  importMaxAttempts : Nat := 3
  importRetryBaseSeconds : Nat := 2
  importRetryMaxSeconds : Nat := 60
  importLeaseSeconds : Nat := 300
  importRedispatchSeconds : Nat := 60
  maxAttempts_bounds : 1 ≤ importMaxAttempts ∧ importMaxAttempts ≤ 10 := by decide
  retryBase_bounds : 1 ≤ importRetryBaseSeconds ∧ importRetryBaseSeconds ≤ 300 := by decide
  retryMax_bounds : 1 ≤ importRetryMaxSeconds ∧ importRetryMaxSeconds ≤ 3600 := by decide
  lease_bounds : 30 ≤ importLeaseSeconds ∧ importLeaseSeconds ≤ 3600 := by decide
  redispatch_bounds : 10 ≤ importRedispatchSeconds ∧ importRedispatchSeconds ≤ 3600 := by decide

/-- The classes the code catches or tests for. -/
inductive ExceptionClass where
  | operationalError | integrityError | dataError
  | transientImportError | permanentImportError
  | timeoutError | connectionError
  | resourceNotFoundError
  deriving DecidableEq

/-- A raised exception: the named classes it is an instance of, and its text. -/
structure Raised where
  classes : List ExceptionClass
  message : String
  deriving DecidableEq

def Raised.isinstance (e : Raised) (c : ExceptionClass) : Bool := e.classes.contains c

def integrityError (constraint : String) : Raised := ⟨[.integrityError], constraint⟩

/-- `str(error)[:1000]` -/
def Raised.text (e : Raised) : String := String.ofList (e.message.toList.take 1000)

/-- The errors the API maps to a status of its own. -/
inductive DomainError where
  | domainValidation (message : String)
  | resourceNotFound (message : String)
  | resourceConflict (message : String)
  | resourceUnavailable (message : String)
  deriving DecidableEq

/-- The status codes of the exception handlers in `main.py`. -/
def DomainError.statusCode : DomainError → Nat
  | .domainValidation _ => 422
  | .resourceNotFound _ => 404
  | .resourceConflict _ => 409
  | .resourceUnavailable _ => 503

/-- An exception that leaves a service call: one of the handlers' own, or any other. -/
inductive CallError where
  | domain (error : DomainError)
  | unmapped (error : Raised)
  deriving DecidableEq

/-- The database after a call, and the exception the call ends with if it does not return. -/
structure CallOutcome (σ : Type) where
  db : σ
  error : Option CallError

namespace CallOutcome

variable {σ : Type} {outcome : CallOutcome σ} {before after : σ}

/-- The call returned, or the API answers its error with one of the status codes. -/
def Mapped (outcome : CallOutcome σ) (statusCodes : List Nat) : Prop :=
  ∀ e, outcome.error = some e → ∃ d, e = .domain d ∧ d.statusCode ∈ statusCodes

/-- The same, and an error left the database as it was. -/
def Answered (outcome : CallOutcome σ) (statusCodes : List Nat) (before : σ) : Prop :=
  outcome.Mapped statusCodes ∧ (outcome.error ≠ none → outcome.db = before)

theorem mapped_returned (after : σ) (statusCodes : List Nat) : (⟨after, none⟩ : CallOutcome σ).Mapped statusCodes := by
  rintro e same
  cases same

theorem mapped_domain (after : σ) {d : DomainError} {statusCodes : List Nat} (code : d.statusCode ∈ statusCodes) :
    (⟨after, some (.domain d)⟩ : CallOutcome σ).Mapped statusCodes := by
  rintro e same
  exact ⟨d, (Option.some.inj same).symm, code⟩

theorem not_mapped (after : σ) (e : Raised) (statusCodes : List Nat) :
    ¬ (⟨after, some (.unmapped e)⟩ : CallOutcome σ).Mapped statusCodes := by
  intro mapped
  obtain ⟨d, impossible, -⟩ := mapped _ rfl
  cases impossible

theorem answered_domain (before : σ) {d : DomainError} {statusCodes : List Nat} (code : d.statusCode ∈ statusCodes) :
    (⟨before, some (.domain d)⟩ : CallOutcome σ).Answered statusCodes before :=
  ⟨mapped_domain before code, fun _ => rfl⟩

theorem not_answered (before after : σ) (e : Raised) (statusCodes : List Nat) :
    ¬ (⟨after, some (.unmapped e)⟩ : CallOutcome σ).Answered statusCodes before :=
  fun answered => not_mapped after e statusCodes answered.1

end CallOutcome

/-- psycopg sends no text with a NUL, and PostgreSQL would not take one. -/
def nulError : Raised := ⟨[.dataError], "PostgreSQL text fields cannot contain NUL (0x00) bytes"⟩

/-- A statement was refused for a value that its column cannot hold. -/
def valueError : Raised := ⟨[.dataError], "value refused by its column"⟩

structure FailureDisposition where
  retryScheduled : Bool
  retryDelaySeconds : Option Nat
  failureCode : String
  deriving DecidableEq

def classifyImportFailure (error : Raised) : Bool × String :=
  if error.isinstance .operationalError then (true, "transient_database_error")
  else if error.isinstance .transientImportError then (true, "transient_import_error")
  else if error.isinstance .timeoutError then (true, "transient_timeout")
  else if error.isinstance .connectionError then (true, "transient_connection_error")
  else if error.isinstance .permanentImportError then (false, "permanent_import_error")
  else (false, "unexpected_import_error")

def calculateRetryDelay (settings : Settings) (attemptCount : Nat) : Nat :=
  let exponent := attemptCount - 1
  min (settings.importRetryBaseSeconds * 2 ^ exponent) settings.importRetryMaxSeconds

example : (List.range' 1 7).map (calculateRetryDelay {}) = [2, 4, 8, 16, 32, 60, 60] := by decide

end SupplyChainHub
