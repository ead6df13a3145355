import ApiDoc.Proofs.CommandLine.Arguments
import ApiDoc.Proofs.CommandLine.Reports
import ApiDoc.Proofs.Record.Json
import ApiDoc.Proofs.Storage.Files

/-!
# The text of a documentation

What a run writes for a dump that it can document, to standard output or to a file, is the text of the documentation (`Run.textOf`). The text is JSON, the bytes of a file hold that same text, and reading it gives the documentation with all names in order (`run_writes_json`), whatever texts and flags the dump holds.
-/

namespace ApiDoc.CommandLine

open Json (Faithful)
open Logging (Session Stamp)
open Storage (normalPath)
open Syntax (SourceTree load)

/-! ### Reading the text -/

section

variable {docs : Record.Documentation} (h : Faithful docs.toJson)
include h

theorem parse_textOf : Json.parse (Run.textOf docs).toList = .ok docs.toJson := by
  rw [Run.textOf, String.toList_ofList]
  exact h.parse_document

theorem decode_textOf : Text.decode (Run.textOf docs).toUTF8.toList = .ok (Run.textOf docs).toList := by
  rw [Run.textOf, String.toList_ofList]
  exact h.decode_document

end

/-! ### Writing the text -/

section

variable {settings : Settings} {source : String} {s s' : Session} {t : SourceTree} {docs : Record.Documentation}

def withFiles (files : Storage.Files) (s : Session) : Session := { s with logs := { s.logs with files } }

section

variable (hload : load s.logs.files (normalPath source) = .ok t) (htell : Session.tellOfTree t s = .ok () s')
  (hdocs : Record.build settings t = .ok docs)
include hload htell hdocs

theorem act_stdout :
    Run.act settings ⟨none, some (.build source .stdout)⟩ s = .ok 0 (written .stdout (Run.textOf docs) s') := by
  have hsettings : Run.chosenSettings settings none s = .ok settings s := rfl
  simp only [Run.act, bind_of_eq_ok hsettings, Run.build, withTree_of_load hload htell, hdocs]
  exact bind_of_eq_ok (lift_eq_ok _ docs s')

theorem act_file (out : String) :
    Run.act settings ⟨none, some (.build source (.file out))⟩ s = Run.writeTo (normalPath out) docs s' := by
  have hsettings : Run.chosenSettings settings none s = .ok settings s := rfl
  simp only [Run.act, bind_of_eq_ok hsettings, Run.build, withTree_of_load hload htell, hdocs]
  exact bind_of_eq_ok (lift_eq_ok _ docs s')

end

theorem writeTo_of_write {path : String} {files' : Storage.Files}
    (hwrite : s.logs.files.write path (Run.textOf docs).toUTF8.toList = .ok files')
    (htell : Session.tellOfOutput docs.length path (withFiles files' s) = .ok () s') :
    Run.writeTo path docs s = .ok 0 s' := by
  have hmodify : (modify (withFiles files') : Run Unit) s = .ok () (withFiles files' s) := rfl
  simp only [Run.writeTo, bind_of_eq_ok (files_eq_ok s), hwrite]
  refine (bind_of_eq_ok hmodify).trans ((bind_of_eq_ok (step_of_eq_ok htell)).trans ?_)
  rfl

end

/-! ### Runs -/

/-- **What a run writes is JSON for the documentation.** Where a dump can be loaded and documented, its text is read back to the documentation itself. A run with a source alone writes this text to standard output. With an output too, the file that it writes is read and decoded to the same text, and what is left of the run is to tell of it. The loggers of the run may be any, as long as telling does not break it off. -/
theorem run_writes_json {around : Surroundings} {stamp : Stamp} {settings : Settings} {source : String} {s s' : Session}
    {t : SourceTree} {docs : Record.Documentation} (hstart : StartsIn around stamp settings s)
    (hload : load s.logs.files (normalPath source) = .ok t) (htell : Session.tellOfTree t s = .ok () s')
    (hdocs : Record.build settings t = .ok docs) :
    Json.parse (Run.textOf docs).toList = .ok docs.toJson
      ∧ (∀ i, Invocation.parse ["build", source] = .ok i →
          run around stamp ["build", source] = .ok ⟨0, s'.logs.output ++ [(.stdout, Run.textOf docs)], s'.logs.files⟩)
      ∧ ∀ out i files', Invocation.parse ["build", source, "-o", out] = .ok i →
          s'.logs.files.write (normalPath out) (Run.textOf docs).toUTF8.toList = .ok files' →
          (∃ bytes, files'.read (normalPath out) = .ok bytes ∧ Text.decode bytes = .ok (Run.textOf docs).toList)
            ∧ ∀ s'', Session.tellOfOutput docs.length (normalPath out) (withFiles files' s') = .ok () s'' →
              run around stamp ["build", source, "-o", out] = .ok ⟨0, s''.logs.output, s''.logs.files⟩ := by
  have hfaithful : Faithful docs.toJson := Record.faithful_of_build (Syntax.shortFlags_of_load hload) hdocs
  refine ⟨parse_textOf hfaithful, fun i hargs => ?_, fun out i files' hargs hwrite => ⟨?_, fun s'' htell' => ?_⟩⟩
  · obtain rfl : i = ⟨none, some (.build source .stdout)⟩ := invocation_of_source (c := .build) hargs
    rw [run, hstart.whole_of_parse hargs, act_stdout hload htell hdocs]
    rfl
  · exact ⟨_, Storage.read_of_write hwrite, decode_textOf hfaithful⟩
  · obtain rfl := invocation_of_output hargs
    rw [run, hstart.whole_of_parse hargs, act_file hload htell hdocs, writeTo_of_write hwrite htell']

/-- A node for a property with flags that say nothing about its visibility. -/
def unspecifiedNode : Json :=
  .obj [("nodeType", .str "Stmt_Property"), ("flags", .int 18446744073709551616),
    ("props", .arr [.obj [("nodeType", .str "PropertyItem"), ("name", .str "π\x01")]])]

/-- A dump of a class with a quote and a backslash in its name. -/
def quotedDump : Json :=
  .arr [.obj [("nodeType", .str "Stmt_Class"), ("name", .str "A\"B\\"), ("stmts", .arr [unspecifiedNode])]]

def quotedFiles : Storage.Files :=
  [(⟨0, ["dump.json"]⟩, .file (String.ofList (Json.render quotedDump ++ ['\n'])).toUTF8.toList)]

def quotedTree : SourceTree :=
  ⟨[.classDecl ⟨"A\"B\\", [.property ⟨[⟨"π\x01", none, []⟩], 18446744073709551616, none, [], -1⟩], 0, [], -1⟩],
    some "dump.json"⟩

def quotedDocs : Record.Documentation :=
  [("A\"B\\", .classDoc ⟨"A\"B\\", "", "", none,
    [("π\x01", ⟨"π\x01", "", "", .unspecified 18446744073709551616, false, "", none⟩)], []⟩)]

theorem faithful_quotedDump : Faithful quotedDump := by
  have hitem : Faithful (.obj [("nodeType", .str "PropertyItem"), ("name", .str "π\x01")]) :=
    .obj (by decide) (by simp [Faithful.str])
  have hflags : Number.IsShort 18446744073709551616 := by decide +kernel
  have hproperty : Faithful unspecifiedNode :=
    .obj (by decide) (by simp [Faithful.str, Faithful.int hflags, Faithful.arr (List.forall_mem_singleton.mpr hitem)])
  refine .arr (List.forall_mem_singleton.mpr (.obj (by decide) ?_))
  simp [Faithful.str, Faithful.arr (List.forall_mem_singleton.mpr hproperty)]

theorem ofJson_quotedDump : SourceTree.ofJson (some "dump.json") quotedDump = .ok quotedTree := by
  have hproperty : Syntax.Member.ofJson unspecifiedNode =
      .property ⟨[⟨"π\x01", none, []⟩], 18446744073709551616, none, [], -1⟩ := by
    rw [Syntax.ofJson_property rfl, Syntax.Property.ofJson, Syntax.typeName_unknown (by decide)]
    rfl
  have hclass : Syntax.Statement.ofJson (.obj [("nodeType", .str "Stmt_Class"), ("name", .str "A\"B\\"),
      ("stmts", .arr [unspecifiedNode])]) = .classDecl ⟨"A\"B\\", [Syntax.Member.ofJson unspecifiedNode], 0, [], -1⟩ := by
    rw [Syntax.ofJson_class rfl]
    rfl
  rw [quotedTree, ← hproperty, ← hclass]
  rfl

theorem load_quotedFiles : load quotedFiles (normalPath "dump.json") = .ok quotedTree := by
  have hpath : normalPath "dump.json" = "dump.json" := by decide +kernel
  have hread : quotedFiles.read "dump.json" = .ok (String.ofList (Json.render quotedDump ++ ['\n'])).toUTF8.toList := rfl
  rw [hpath, Syntax.load_of_parse hread faithful_quotedDump.decode_document faithful_quotedDump.parse_document, ofJson_quotedDump]
  rfl

theorem settings_quotedFiles : Settings.load [] quotedFiles [] = .ok Settings.default := by decide +kernel

theorem build_quotedTree : Record.build Settings.default quotedTree = .ok quotedDocs := by decide +kernel

def quotedSession (source : Option Logging.LogSource) : Session :=
  ⟨⟨Session.withLoggers Session.defaultRegistry, quotedFiles, []⟩, [], sampleStamp, source⟩

def quotedOutput : Storage.Files := quotedFiles.put ⟨0, ["out.json"]⟩ (.file (Run.textOf quotedDocs).toUTF8.toList)

theorem tellOfTree_quotedTree (source : Option Logging.LogSource) : Session.tellOfTree quotedTree (quotedSession source) =
    .ok () ((quotedSession source).withLogger (Logging.fullName Session.loaderName)) := by
  have hnotes : quotedTree.notes = [.loaded 1 "dump.json"] := rfl
  have hquiet : (quotedSession source).Quiet := Session.quiet_withLoggers source
  rw [Session.tellOfTree, hnotes]
  exact bind_of_eq_ok (Session.log_of_drops (by decide) hquiet _)

/-- The loggers and files when a file with the documentation was written. -/
def toldState : Logging.LogState :=
  ⟨((Session.withLoggers Session.defaultRegistry).ensure (Logging.fullName Session.loaderName)).ensure
    (Logging.fullName Session.commandName), quotedOutput, []⟩

theorem exists_emit_toldState : ∃ logs, Logging.emit ⟨Logging.fullName Session.commandName, .info,
    (Logging.Message.written 1 "out.json").template, (Logging.Message.written 1 "out.json").arguments,
    (Logging.Message.written 1 "out.json").text, sampleStamp⟩ toldState = .ok () logs := by
  have hok : (match Logging.emit ⟨Logging.fullName Session.commandName, .info, (Logging.Message.written 1 "out.json").template,
        (Logging.Message.written 1 "out.json").arguments, (Logging.Message.written 1 "out.json").text, sampleStamp⟩ toldState with
      | .ok _ _ => true
      | .error _ _ => false) = true := by decide +kernel
  split at hok
  · rename_i logs hemit
    exact ⟨logs, hemit⟩
  · cases hok

theorem run_quotedFiles :
    load quotedFiles (normalPath "dump.json") = .ok quotedTree
      ∧ Record.build Settings.default quotedTree = .ok quotedDocs
      ∧ Json.parse (Run.textOf quotedDocs).toList = .ok quotedDocs.toJson
      ∧ run ⟨[], quotedFiles⟩ sampleStamp ["build", "dump.json"] = .ok ⟨0, [(.stdout, Run.textOf quotedDocs)], quotedFiles⟩
      ∧ (∃ bytes, quotedOutput.read "out.json" = .ok bytes ∧ Text.decode bytes = .ok (Run.textOf quotedDocs).toList)
      ∧ ∃ output files, run ⟨[], quotedFiles⟩ sampleStamp ["build", "dump.json", "-o", "out.json"] = .ok ⟨0, output, files⟩ := by
  have houtput : startOutput quotedFiles = [] := by decide +kernel
  have hpath : normalPath "out.json" = "out.json" := by decide +kernel
  obtain ⟨source, hstart⟩ := @exists_startsIn_default ⟨[], quotedFiles⟩ sampleStamp settings_quotedFiles
  rw [houtput] at hstart
  obtain ⟨hparse, hstdout, hfile⟩ :=
    run_writes_json hstart load_quotedFiles (tellOfTree_quotedTree (some source)) build_quotedTree
  have hprinted := hstdout _ (parse_of_plain .build (by decide))
  have hwrite : quotedFiles.write (normalPath "out.json") (Run.textOf quotedDocs).toUTF8.toList = .ok quotedOutput := by
    rw [hpath]
    rfl
  have hargs : Invocation.parse ["build", "dump.json", "-o", "out.json"] =
      .ok ⟨none, some (.build "dump.json" (.file "out.json"))⟩ := by decide +kernel
  obtain ⟨hread, hrun⟩ := hfile "out.json" _ quotedOutput hargs hwrite
  obtain ⟨logs, hemit⟩ := exists_emit_toldState
  rw [hpath] at hread hrun
  exact ⟨load_quotedFiles, build_quotedTree, hparse, hprinted, hread, _, _, hrun _ (Session.log_of_emit (by decide) hemit)⟩

end ApiDoc.CommandLine
