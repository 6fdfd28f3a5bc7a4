import Mathlib.Control.Monad.Basic
import ReceiptPress.Proofs.CommandLine.Loading
import ReceiptPress.Proofs.Text.Utf8
import ReceiptPress.Value.Equality

namespace ReceiptPress.CommandLine

variable {files : Files}

theorem readText_of_encode {name text : Text} (holds : files name = .ok (Utf8.encode text)) :
    readText files name = .ok (Text.unifyNewlines text) := by
  rw [readText, holds]
  dsimp only
  rw [Utf8.decode_encode]

def describe (template : Text) (items : Value) : Value :=
  .object
    [(Text.toCodePoints "template".toList, .ofText template),
      (Text.toCodePoints "items".toList, items)]

theorem readDescription_of_files {r : Request} (no_job : isNamed r.job = false)
    (items_named : isNamed r.items = true) {text : Text}
    (holds : files (r.template.getD []) = .ok (Utf8.encode text)) :
    readDescription files r =
      describe (Text.unifyNewlines text) <$> readJson files (r.items.getD []) := by
  rw [readDescription, no_job, if_neg Bool.false_ne_true, readText_of_encode holds, items_named]
  cases readJson files (r.items.getD []) <;> rfl

structure Request.Alike (r other : Request) : Prop where
  identifier : r.identifier = other.identifier
  transactionId : r.transactionId = other.transactionId
  format : r.format = other.format

theorem loadJob_congr {r other : Request} (alike : r.Alike other)
    (described : readDescription files r = readDescription files other) :
    loadJob files r = loadJob files other := by
  rw [loadJob, loadJob, described, alike.identifier]

theorem runRequest_congr {r other : Request} (alike : r.Alike other)
    (fixed : isNamed r.transactionId = true)
    (described : readDescription files r = readDescription files other) (p : Profile)
    (ids others : IdSource) :
    runRequest files p ids r = runRequest files p others other := by
  have ids_eq : idsFor r ids = idsFor other others := by
    rw [idsFor, idsFor, ← alike.transactionId, if_pos fixed, if_pos fixed]
  rw [runRequest, runRequest, loadJob_congr alike described, ids_eq, alike.format]

/-- A run that is given a template file, items and a fixed id comes to the same as one that is given
a job file with these items and with the text of the template file, its line ends in one form. Texts
without carriage returns have them so already. -/
theorem run_files_eq_run_job {jobArguments fileArguments : List Text} {r other : Request}
    (job_parsed : parse jobArguments = .ok (.request r))
    (files_parsed : parse fileArguments = .ok (.request other)) (alike : r.Alike other)
    (fixed : isNamed r.transactionId = true) (job_named : isNamed r.job = true)
    (no_job : isNamed other.job = false) (items_named : isNamed other.items = true) {text : Text}
    (template_file : files (other.template.getD []) = .ok (Utf8.encode text))
    (job_file : readJson files (r.job.getD []) =
      describe (Text.unifyNewlines text) <$> readJson files (other.items.getD []))
    (p : Profile) (ids others : IdSource) :
    run files p ids jobArguments = run files p others fileArguments ∧
      ('\r' ∉ text → Text.unifyNewlines text = text) := by
  have described : readDescription files r = readDescription files other := by
    rw [readDescription_of_files no_job items_named template_file, ← job_file]
    exact if_pos job_named
  refine ⟨?_, Text.unifyNewlines_eq_self⟩
  rw [run, job_parsed, run, files_parsed]
  exact runRequest_congr alike fixed described p ids others

def Files.ofTexts (texts : List (Text × Text)) : Files := fun name =>
  match texts.find? (·.1 = name) with
  | some file => .ok (Utf8.encode file.2)
  | none => .error .missing

def namingFiles : List Text := ["--template".toList, "t".toList, "--items".toList, "i".toList]

theorem run_files_eq_run_job_shop :
    let text : Text := "{{STORE_ID}}\r\nTea\r{{ITEMS}}".toList
    let items : Text := "[\x7b\"name\": \"Tea\", \"price\": 3\x7d]".toList
    let job : Text := "\x7b\"template\": \"{{STORE_ID}}\\nTea\\n{{ITEMS}}\", \"items\": ".toList ++
      items ++ "\x7d".toList
    let files := Files.ofTexts [("t".toList, text), ("i".toList, items), ("j".toList, job)]
    let options := ["--identifier".toList, "Shop".toList, "--transaction-id".toList, "7".toList]
    let byJob := run files {} (.ofList []) ("j".toList :: options)
    let byFiles := run files {} (.failing []) (namingFiles ++ options)
    files "t".toList = .ok (Utf8.encode text) ∧
      readJson files "j".toList =
        describe (Text.unifyNewlines text) <$> readJson files "i".toList ∧
      byJob = byFiles ∧ byFiles.status = 0 := by
  intro text items job files options byJob byFiles
  let r : Request :=
    { job := some "j".toList, identifier := some "Shop".toList, transactionId := some "7".toList }
  let other : Request :=
    { r with job := none, template := some "t".toList, items := some "i".toList }
  have job_parsed : parse ("j".toList :: options) = .ok (.request r) := rfl
  have files_parsed : parse (namingFiles ++ options) = .ok (.request other) := rfl
  have template_file : files "t".toList = .ok (Utf8.encode text) := by decide +kernel
  have job_file : readJson files "j".toList =
      describe (Text.unifyNewlines text) <$> readJson files "i".toList := by decide +kernel
  have same : byJob = byFiles := (run_files_eq_run_job job_parsed files_parsed ⟨rfl, rfl, rfl⟩ rfl
    rfl rfl rfl template_file job_file {} _ _).1
  exact ⟨template_file, job_file, same, by decide +kernel⟩

/-- A carriage return that a job file tells of is printed; out of a template file it ends a line. -/
theorem carriage_return_differs :
    let text : Text := "a\rb".toList
    let job : Text := "\x7b\"template\": \"a\\rb\", \"items\": []\x7d".toList
    let files := Files.ofTexts [("t".toList, text), ("i".toList, "[]".toList), ("j".toList, job)]
    let options := ["--identifier".toList, "Shop".toList, "--transaction-id".toList, "7".toList,
      "--format".toList, "raw".toList]
    let byJob := run files {} (.ofList []) ("j".toList :: options)
    let byFiles := run files {} (.ofList []) (namingFiles ++ options)
    files "t".toList = .ok (Utf8.encode text) ∧
      readJson files "j".toList = describe text <$> readJson files "i".toList ∧
      byJob.output ≠ byFiles.output := by
  intro text job files options byJob byFiles
  have kept : byJob.output =
      Instruction.init.bytes ++ [0x61, 0x0D, 0x62, 0x0A] ++ Instruction.cut.bytes := by
    decide +kernel
  have ended : byFiles.output =
      Instruction.init.bytes ++ [0x61, 0x0A, 0x62, 0x0A] ++ Instruction.cut.bytes := by
    decide +kernel
  refine ⟨by decide +kernel, by decide +kernel, ?_⟩
  rw [kept, ended]
  decide

end ReceiptPress.CommandLine
