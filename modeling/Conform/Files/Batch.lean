import Conform.Files.Console
import Conform.Files.Instances
import Conform.Report
import Conform.Schema

set_option autoImplicit false

namespace Conform

-- A reader with what its documents say as schemas: whether they want an array, and what they find in a value.
structure Engine (V : Type) extends Reader V where
  wantsArray : V → Bool
  judge : V → V → Traced Findings

namespace Engine

variable {V : Type}

def reportOn (judge : V → Traced Findings) (entry : Labelled V) : Logged Volume.Fault Report :=
  match entry.content with
  | .error f => .result ⟨["Invalid JSON: " ++ f.cause.message], some entry.label⟩
  | .ok value => do
      let findings ← (judge value).mapFault .engine
      return ⟨findings, some entry.label⟩

def check (engine : Engine V) (volume : Volume) (source : Source) (schemaFile : String) :
    Logged Volume.Fault (List Report) :=
  match volume.document engine.read schemaFile with
  | .error f => .fault f
  | .ok document => do
      let entries ← Labelled.load engine.toReader volume source (engine.wantsArray document)
      Logged.each (reportOn (engine.judge document)) entries

def standard : Engine Json where
  toReader := Json.reader
  wantsArray document := ((Schema.ofDocument document []).kinds.getD []).contains .array
  judge document := (Schema.ofDocument document []).validate

end Engine

-- The reports on the sources before the first one that cannot be used or whose reports cannot be printed, what was
-- printed, and why it ended.
structure Batch where
  reports : List Report := []
  output : String := ""
  log : List Entry := []
  failure : Option Volume.Fault := none
  refusal : Option String := none

namespace Batch

def lines (reports : List Report) : List String :=
  reports.flatMap fun r => [r.text, "\n"]

def through (check : Source → Logged Volume.Fault (List Report)) (tell : List Report → Printed) : List Source → Batch
  | [] => {}
  | source :: rest =>
      let checked := check source
      match checked.outcome with
      | .error f => { log := checked.log, failure := some f }
      | .ok reports =>
          let told := tell reports
          match told.refusal with
          | some message => { output := told.output, log := checked.log, refusal := some message }
          | none =>
              let others := through check tell rest
              { others with
                reports := reports ++ others.reports
                output := told.output ++ others.output
                log := checked.log ++ others.log }

def check (volume : Volume) (source : Source) (schemaFile : String) : Logged Volume.Fault (List Report) :=
  Engine.standard.check volume source schemaFile

def run (volume : Volume) (schemaFile : String) : List Source → Batch :=
  through (fun source => check volume source schemaFile) fun _ => .nothing

def validCount (batch : Batch) : Nat :=
  batch.reports.countP Report.isValid

def invalidCount (batch : Batch) : Nat :=
  batch.reports.countP fun r => !r.isValid

def print (batch : Batch) : String :=
  String.join (lines batch.reports)

end Batch

end Conform
