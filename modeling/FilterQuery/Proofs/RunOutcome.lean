import FilterQuery.CommandLine.Run
import FilterQuery.Proofs.Digits

/-!
# What a run leaves

A run makes its report before it leaves anything, so that a run that fails to make one leaves all files as
they are and prints nothing. A report is printed without its trailing blanks and with one line break, but
it is written to a file as it is. The two agree because of how reports end: a text ends with a line whose
last character is not blank, whether that is the border of the table, the end of a notice or the control
sequence that ends its color; and a document ends with its closing brace.

The files are those of any `FileSystem`, in which a file that could be written holds what was written.

## Main results

* `Report.endsLine_text`, `Report.endsSolid_json` — how reports end.
* `CommandLine.makes_report` — the report is the rendered compilation, and the log has no part in it.
* `Directory.read_write` — a working directory in memory is such a file system.
* `CommandLine.runOptions_outputs` — a run leaves all or nothing, and its two outputs agree.
-/

namespace FilterQuery

/-! ## The ends of texts -/

namespace Text

/-- The text ends with a character that is not blank. -/
def EndsSolid (text : List Char) : Prop :=
  ∃ c, text.getLast? = some c ∧ isBlank c = false

/-- The text ends with a line break after a character that is not blank. -/
def EndsLine (text : List Char) : Prop :=
  ∃ line, EndsSolid line ∧ text = line ++ ['\n']

variable {text more : List Char}

theorem endsSolid_concat {c : Char} (hc : isBlank c = false) (text : List Char) :
    EndsSolid (text ++ [c]) :=
  ⟨c, List.getLast?_concat, hc⟩

theorem EndsSolid.append (h : EndsSolid more) (text : List Char) : EndsSolid (text ++ more) := by
  obtain ⟨c, hlast, hc⟩ := h
  refine ⟨c, ?_, hc⟩
  rw [List.getLast?_append, hlast]
  rfl

theorem EndsSolid.endsLine (h : EndsSolid text) : EndsLine (text ++ ['\n']) :=
  ⟨text, h, rfl⟩

theorem EndsLine.append (h : EndsLine more) (text : List Char) : EndsLine (text ++ more) := by
  obtain ⟨line, hline, rfl⟩ := h
  exact ⟨text ++ line, hline.append text, (List.append_assoc _ _ _).symm⟩

/-- Lines after a text that ends with a line. -/
theorem EndsLine.append_join {lines : List String} (h : EndsLine text)
    (hlines : ∀ line ∈ lines, EndsLine line.toList) :
    EndsLine (text ++ (String.join lines).toList) := by
  induction lines generalizing text with
  | nil => exact (List.append_nil text).symm ▸ h
  | cons line lines ih =>
      have hline := hlines line List.mem_cons_self
      rw [String.join_cons, String.toList_append, ← List.append_assoc]
      exact ih (hline.append text) fun l hl => hlines l (List.mem_cons_of_mem _ hl)

/-- Pieces end as the last of them does. -/
theorem endsSolid_intercalate {last : List Char} (h : EndsSolid last) (separator : List Char)
    (pieces : List (List Char)) : EndsSolid (separator.intercalate (pieces ++ [last])) := by
  induction pieces with
  | nil =>
      rw [List.nil_append, List.intercalate_singleton]
      exact h
  | cons piece pieces ih =>
      have hne : pieces ++ [last] ≠ [] := List.append_ne_nil_of_right_ne_nil _ (List.cons_ne_nil _ _)
      rw [List.cons_append, List.intercalate_cons_of_ne_nil hne]
      exact ih.append _

theorem trimEnd_of_endsSolid (h : EndsSolid text) : trimEnd text = text := by
  obtain ⟨c, hlast, hc⟩ := h
  have hhead : ∀ d ∈ text.reverse.head?, isBlank d = false := by
    intro d hd
    rw [List.head?_reverse, hlast] at hd
    cases hd
    exact hc
  rw [trimEnd, dropWhile_eq_self hhead, List.reverse_reverse]

theorem trimEnd_of_endsLine {line : List Char} (h : EndsSolid line) :
    trimEnd (line ++ ['\n']) = line := by
  have hbreak : trimEnd (line ++ ['\n']) = trimEnd line := by
    rw [trimEnd, List.reverse_append]
    rfl
  rw [hbreak, trimEnd_of_endsSolid h]

end Text

open Text (EndsSolid EndsLine endsSolid_concat)

/-! ## The ends of reports -/

/-- A document that is an object ends with its brace. -/
theorem Json.endsSolid_compactChars (members : List (String × Json)) :
    EndsSolid (Json.object members).compactChars := by
  rw [compactChars, ← List.cons_append]
  exact endsSolid_concat (by decide) _

theorem Json.endsSolid_prettyChars (level : Nat) (members : List (String × Json)) :
    EndsSolid ((Json.object members).prettyChars level) := by
  cases members with
  | nil =>
      rw [prettyChars]
      exact endsSolid_concat (by decide) ['\x7b']
  | cons member members =>
      rw [prettyChars, ← List.cons_append]
      exact endsSolid_concat (by decide) _

/-- A table ends with the corner of its border. -/
theorem Table.endsSolid_text (table : Table) : EndsSolid table.text.toList := by
  have hrule : EndsSolid (rule '└' '─' '┴' '┘' table.columnWidths) := endsSolid_concat (by decide) _
  rw [text, String.toList_ofList, lines]
  exact Text.endsSolid_intercalate hrule _ _

/-- A styled text ends with the text or with the end of the style. -/
theorem Style.endsSolid_apply (style : Style) (shown : Bool) {text : String}
    (h : EndsSolid text.toList) : EndsSolid (style.apply shown text).toList := by
  rw [apply]
  split
  · have hreset : EndsSolid reset := endsSolid_concat (by decide) ['\x1b', '[', '0']
    rw [String.toList_ofList]
    exact hreset.append _
  · exact h

namespace Report

theorem endsSolid_skipNotice (field : String) : EndsSolid (skipNotice field).toList := by
  have hend : EndsSolid "' were compiled to match_all.".toList := ⟨'.', by decide, by decide⟩
  show EndsSolid ("Comparisons on '" ++ field ++ "' were compiled to match_all.").toList
  rw [String.toList_append]
  exact hend.append _

/-- The use of the fields ends with the table, or the line in its place, or with a notice. -/
theorem endsLine_usageText (color : Bool) (c : Compilation) : EndsLine (usageText color c).toList := by
  have hbody : EndsLine
      (if c.usage.isEmpty then "No fields referenced.\n" else (usageTable c).text ++ "\n").toList := by
    split
    · exact ⟨"No fields referenced.".toList, ⟨'.', by decide, by decide⟩, by decide⟩
    · rw [String.toList_append]
      exact (usageTable c).endsSolid_text.endsLine
  have hnotices : ∀ line ∈ (distinct c.skipped).map fun field =>
      Style.cyan.apply color (skipNotice field) ++ "\n", EndsLine line.toList := by
    intro line hline
    obtain ⟨field, _, rfl⟩ := List.mem_map.1 hline
    rw [String.toList_append]
    exact (Style.cyan.endsSolid_apply color (endsSolid_skipNotice field)).endsLine
  rw [usageText, String.toList_append, String.toList_append]
  exact (hbody.append _).append_join hnotices

/-- A report as a text ends with a line. -/
theorem endsLine_text (subject : Subject) (color : Bool) (c : Compilation) :
    EndsLine (text subject color c).toList := by
  cases subject with
  | compilation =>
      show EndsLine (compilationText color c).toList
      rw [compilationText, String.toList_append]
      exact (endsLine_usageText color c).append _
  | fieldUsage => exact endsLine_usageText color c

/-- A report as JSON ends with its brace. -/
theorem endsSolid_json (subject : Subject) (compact : Bool) (c : Compilation) :
    EndsSolid (json subject compact c).toList := by
  have hdocument : ∃ members, document subject c = .object members := by
    cases subject with
    | compilation => exact ⟨_, rfl⟩
    | fieldUsage => exact ⟨_, rfl⟩
  obtain ⟨members, hmembers⟩ := hdocument
  rw [json, hmembers, render]
  split
  · rw [Json.compact, String.toList_ofList]
    exact Json.endsSolid_compactChars members
  · rw [Json.pretty, String.toList_ofList]
    exact Json.endsSolid_prettyChars 0 members

end Report

namespace CommandLine

/-- A text that ends with a line is printed as it is. -/
theorem printed_of_endsLine {report : String} (h : EndsLine report.toList) : printed report = report := by
  obtain ⟨line, hline, hreport⟩ := h
  rw [printed, hreport, Text.trimEnd_of_endsLine hline]
  apply String.toList_inj.1
  rw [String.toList_append, String.toList_ofList, hreport]
  rfl

/-- A text without blanks at its end is printed with a line break. -/
theorem printed_of_endsSolid {report : String} (h : EndsSolid report.toList) :
    printed report = report ++ "\n" := by
  rw [printed, Text.trimEnd_of_endsSolid h, String.ofList_toList]

section Printed

variable {world : World} {options : Options}

/-- A text is printed as it is written. -/
theorem printed_render_text (h : options.format = .text) (c : Compilation) :
    printed (render world options c) = render world options c := by
  unfold render
  rw [h]
  exact printed_of_endsLine (Report.endsLine_text _ _ c)

/-- A document is printed with a line break after it. -/
theorem printed_render_json (h : options.format = .json) (c : Compilation) :
    printed (render world options c) = render world options c ++ "\n" := by
  unfold render
  rw [h]
  exact printed_of_endsSolid (Report.endsSolid_json _ _ c)

end Printed

/-! ## The steps of a run -/

/-- The compilation that a run reports on: the profile is loaded, the input is read and decoded, and the
expression is compiled. The first step that fails decides. -/
def compiled (world : World) (options : Options) : Except Failure Compilation := do
  let profile ← loadProfile world options
  let text ← readInput world options.file
  let expr ← decode options.file text
  compileFile options.file (profile.choose options.skipField? options.noSkipField) expr

/-- The step ends as the given result, whatever was logged before. -/
def Makes {α : Type} (step : Making α) (result : Except Failure α) : Prop :=
  ∀ records, (step records).1 = result

theorem makes_pure {α : Type} (a : α) : Makes (pure a) (pure a) :=
  fun _ => rfl

theorem makes_lift {α : Type} (result : Except Failure α) : Makes (liftM result) result := by
  intro records
  cases result <;> rfl

theorem Makes.bind {α β : Type} {step : Making α} {next : α → Making β} {result : Except Failure α}
    {results : α → Except Failure β} (hstep : Makes step result)
    (hnext : ∀ a, Makes (next a) (results a)) : Makes (step >>= next) (result >>= results) := by
  intro records
  have hfst := hstep records
  show (ExceptT.bindCont next (step records).1 (step records).2).1 = _
  rw [hfst]
  cases result with
  | error failure => rfl
  | ok a => exact hnext a _

/-- Logging changes no result. -/
theorem Makes.after_debug {α : Type} {step : Making α} {result : Except Failure α}
    (h : Makes step result) (message : String) : Makes (debug message >>= fun _ => step) result :=
  fun _ => h _

theorem makes_chooseSkipField (world : World) (options : Options) :
    Makes (chooseSkipField world options)
      (loadProfile world options >>= fun profile =>
        pure (profile.choose options.skipField? options.noSkipField)) := by
  refine (makes_lift _).bind fun profile => Makes.after_debug ?_ _
  have hlast := (makes_pure (profile.choose options.skipField? options.noSkipField)).after_debug
    ("Skip field: " ++ optionText (profile.choose options.skipField? options.noSkipField))
  cases options.config? with
  | none => exact hlast
  | some path => exact hlast.after_debug _

theorem makes_compileInput (world : World) (options : Options) (skip? : Option String) :
    Makes (compileInput world options skip?)
      (readInput world options.file >>= fun text => decode options.file text >>= fun expr =>
        compileFile options.file skip? expr >>= pure) := by
  refine (makes_lift _).bind fun text => (makes_lift _).bind fun expr => Makes.after_debug ?_ _
  refine (makes_lift _).bind fun c => Makes.after_debug ?_ _
  have hlast := makes_pure c
  cases c.skipApplied with
  | false => exact hlast
  | true => exact hlast.after_debug _

/-- The report is the rendered compilation, and the log has no part in it. -/
theorem makes_report (world : World) (options : Options) :
    Makes (makeReport world options)
      (compiled world options >>= fun c => pure (render world options c)) := by
  have hsteps := (makes_chooseSkipField world options).bind fun skip? =>
    (makes_compileInput world options skip?).bind fun c => makes_pure (render world options c)
  simp only [bind_assoc, pure_bind, bind_pure] at hsteps
  simp only [compiled, bind_assoc]
  exact hsteps

section Run

variable {world : World} {options : Options}

theorem exists_runOptions_error {failure : Failure} (h : compiled world options = .error failure) :
    ∃ stderr, runOptions world options = ⟨1, "", stderr, none⟩ := by
  have hreport := makes_report world options []
  rw [h] at hreport
  unfold runOptions
  rcases hmake : makeReport world options [] with ⟨result, records⟩
  rw [hmake] at hreport
  cases hreport
  exact ⟨_, rfl⟩

theorem exists_runOptions_ok {c : Compilation} (h : compiled world options = .ok c) :
    ∃ records, runOptions world options = publish world options records (render world options c) := by
  have hreport := makes_report world options []
  rw [h] at hreport
  unfold runOptions
  rcases hmake : makeReport world options [] with ⟨result, records⟩
  rw [hmake] at hreport
  cases hreport
  exact ⟨records, rfl⟩

variable (records : List Record) (report : String)

/-- The report is printed in any case. -/
theorem stdout_publish : (publish world options records report).stdout = printed report := by
  unfold publish
  cases options.output? with
  | none => rfl
  | some path =>
      dsimp only
      cases world.writeFault? path with
      | none => rfl
      | some fault => rfl

/-- Only a file that is asked for and cannot be written makes the run fail. -/
theorem code_publish_eq_zero_iff :
    (publish world options records report).code = 0 ↔
      ∀ path, options.output? = some path → world.writeFault? path = none := by
  unfold publish
  cases options.output? with
  | none => exact iff_of_true rfl nofun
  | some path =>
      dsimp only
      cases hfault : world.writeFault? path with
      | none =>
          refine iff_of_true rfl fun other hother => ?_
          cases hother
          exact hfault
      | some fault =>
          refine iff_of_false Nat.one_ne_zero fun hnone => ?_
          have hpath := hnone path rfl
          rw [hfault] at hpath
          cases hpath

/-- A file that is asked for and can be written holds the report as it is. -/
theorem written?_publish {path : String} (hpath : options.output? = some path)
    (hfault : world.writeFault? path = none) :
    (publish world options records report).written? = some (path, report) := by
  unfold publish
  rw [hpath]
  dsimp only
  rw [hfault]

end Run

end CommandLine

/-! ## Files -/

/-- Files that can be read and written: a file that could be written holds what was written. -/
structure FileSystem where
  State : Type
  /-- The text of the file under a path. -/
  text : State → String → Except FileFault String
  /-- Why no file can be written under a path, if none can. -/
  writeFault? : State → String → Option FileFault
  /-- The files after one of them is written. -/
  write : State → String → String → State
  text_write : ∀ {state path} (content), writeFault? state path = none →
    text (write state path content) path = .ok content

namespace Directory

/-- The name of the file that a place is or could be. -/
def Place.name? : Place → Option String
  | .file name _ => some name
  | .free name => some name
  | .directory => none
  | .freeDirectory => none

variable {directory : Directory} {path name : String}

/-- What is written under a path is the file that the path names or could name. -/
theorem exists_place_of_target (h : directory.target path = .ok name) :
    ∃ place, directory.locate path = .ok place ∧ place.name? = some name := by
  unfold target at h
  cases hplace : directory.locate path with
  | error fault =>
      rw [hplace] at h
      cases h
  | ok place =>
      refine ⟨place, rfl, ?_⟩
      rw [hplace] at h
      cases place with
      | directory => cases h
      | file found content? =>
          cases h
          rfl
      | free found =>
          cases h
          rfl
      | freeDirectory => cases h

section Lookup

variable {files : List (String × Option String)} {content? : Option String} {place : Place}

/-- Parts that name a file, or could name one, name it when it is there. -/
theorem locateParts_of_lookup (hfiles : files.lookup name = some content?)
    (hname : place.name? = some name) {parts : List String}
    (hplace : directory.locateParts parts = .ok place) :
    (Directory.mk files).locateParts parts = .ok (.file name content?) := by
  induction parts with
  | nil =>
      cases hplace
      cases hname
  | cons part rest ih =>
      unfold locateParts at hplace ⊢
      split at hplace
      case isTrue hstays =>
        rw [if_pos hstays]
        exact ih hplace
      case isFalse hstays =>
        rw [if_neg hstays]
        split at hplace
        case isTrue hup =>
          -- Above the working directory there is no name.
          split at hplace
          · cases hplace
            cases hname
          · cases hplace
        case isFalse hup =>
          have hlast : part = name ∧ rest.isEmpty = true := by
            split at hplace <;> split at hplace
            case h_1.isTrue hrest =>
              cases hplace
              exact ⟨Option.some.inj hname, hrest⟩
            case h_1.isFalse => cases hplace
            case h_2.isTrue hrest =>
              cases hplace
              exact ⟨Option.some.inj hname, hrest⟩
            case h_2.isFalse =>
              split at hplace
              · cases hplace
                cases hname
              · cases hplace
          obtain ⟨rfl, hrest⟩ := hlast
          rw [if_neg hup, hfiles]
          exact if_pos hrest

/-- A path that names a file, or could name one, names it when it is there. -/
theorem locate_of_lookup (hfiles : files.lookup name = some content?) (hname : place.name? = some name)
    (hplace : directory.locate path = .ok place) :
    (Directory.mk files).locate path = .ok (.file name content?) := by
  unfold locate at hplace ⊢
  split at hplace
  · cases hplace
  · split at hplace
    · cases hplace
      cases hname
    · cases hplace
  · exact locateParts_of_lookup hfiles hname hplace

end Lookup

/-- What is written can be read. -/
theorem read_write (content : String) (h : directory.writeFault? path = none) :
    (directory.write path content).read path = .ok content := by
  unfold writeFault? at h
  cases htarget : directory.target path with
  | error fault =>
      rw [htarget] at h
      cases h
  | ok name =>
      obtain ⟨place, hplace, hname⟩ := exists_place_of_target htarget
      have hwritten : (directory.write path content).locate path = .ok (.file name (some content)) := by
        rw [write, htarget]
        exact locate_of_lookup List.lookup_cons_self hname hplace
      rw [read, hwritten]
      rfl

/-- A working directory in memory is a file system. -/
def fileSystem : FileSystem where
  State := Directory
  text := read
  writeFault? := writeFault?
  write := write
  text_write := read_write

end Directory

namespace CommandLine

/-- The world whose files are those of a state. -/
def worldOf (files : FileSystem) (state : files.State) (stdin : Except FileFault String)
    (environment : String → Option String) (terminal : Bool) : World :=
  ⟨files.text state, files.writeFault? state, stdin, environment, terminal⟩

/-- The files after a run. -/
def Outcome.files (outcome : Outcome) (files : FileSystem) (state : files.State) : files.State :=
  match outcome.written? with
  | none => state
  | some (path, content) => files.write state path content

/-- A run that fails to make its report prints nothing and leaves all files as they are. A run that succeeds
with an output file leaves the rendered report in that file, and what it prints is the same text; after a
document, it prints a line break as well. It succeeds unless the report cannot be made or written. -/
theorem runOptions_outputs (files : FileSystem) (state : files.State) (stdin : Except FileFault String)
    (environment : String → Option String) (terminal : Bool) (options : Options) :
    let world := worldOf files state stdin environment terminal
    let outcome := runOptions world options
    (∀ failure, compiled world options = .error failure →
      outcome.code = 1 ∧ outcome.stdout = "" ∧ outcome.written? = none ∧
        outcome.files files state = state) ∧
    (∀ c, compiled world options = .ok c →
      (outcome.code = 0 ↔ ∀ path, options.output? = some path → files.writeFault? state path = none) ∧
      ∀ path, options.output? = some path → outcome.code = 0 →
        outcome.written? = some (path, render world options c) ∧
        files.text (outcome.files files state) path = .ok (render world options c) ∧
        (options.format = .text → outcome.stdout = render world options c) ∧
        (options.format = .json → outcome.stdout = render world options c ++ "\n")) := by
  intro world outcome
  refine ⟨fun failure hfailure => ?_, fun c hc => ?_⟩
  · obtain ⟨stderr, hrun⟩ := exists_runOptions_error hfailure
    have houtcome : outcome = ⟨1, "", stderr, none⟩ := hrun
    rw [houtcome]
    exact ⟨rfl, rfl, rfl, rfl⟩
  · obtain ⟨records, hrun⟩ := exists_runOptions_ok hc
    have houtcome : outcome = publish world options records (render world options c) := hrun
    have hcode : outcome.code = 0 ↔
        ∀ path, options.output? = some path → files.writeFault? state path = none := by
      rw [houtcome]
      exact code_publish_eq_zero_iff records _
    have hstdout : outcome.stdout = printed (render world options c) := by
      rw [houtcome]
      exact stdout_publish records _
    refine ⟨hcode, fun path hpath hzero => ?_⟩
    have hfault := hcode.1 hzero path hpath
    have hwritten : outcome.written? = some (path, render world options c) := by
      rw [houtcome]
      exact written?_publish records _ hpath hfault
    refine ⟨hwritten, ?_, fun htext => ?_, fun hjson => ?_⟩
    · unfold Outcome.files
      rw [hwritten]
      exact files.text_write _ hfault
    · rw [hstdout, printed_render_text htext]
    · rw [hstdout, printed_render_json hjson]

/-- A report that ends with a colored notice takes the place of a file that is no text. A run that reads
that file fails and leaves it. -/
theorem runOptions_outputs_colored :
    let options : Options := ⟨.fieldUsage, "-", none, some "time", false, .text, false, some "./out",
      .always, 0, false⟩
    let input := "[\"BinaryExpression\",\"==\",[\"Field\",\"time\"],[\"NullLiteral\"]]"
    let files := Directory.fileSystem
    let state : Directory := ⟨[("out", none)]⟩
    let world := worldOf files state (.ok input) (fun _ => none) false
    let written := runOptions world options
    let reading := { options with file := "out" }
    let failed := runOptions world reading
    (written.code = 0 ∧ files.text (written.files files state) "./out" = .ok written.stdout) ∧
      failed.code = 1 ∧ failed.stdout = "" ∧ failed.files files state = state := by
  intro options input files state world written reading failed
  have hwritable : files.writeFault? state "./out" = none := by decide +kernel
  refine ⟨?_, ?_⟩
  · have houtputs := runOptions_outputs files state (.ok input) (fun _ => none) false options
    have hcode : written.code = 0 := by decide +kernel
    refine ⟨hcode, ?_⟩
    cases hc : compiled world options with
    | error failure => cases hcode.symm.trans (houtputs.1 failure hc).1
    | ok c =>
        obtain ⟨_, htext, hstdout, _⟩ := (houtputs.2 c hc).2 "./out" rfl hcode
        rw [htext, ← hstdout rfl]
  · have houtputs := runOptions_outputs files state (.ok input) (fun _ => none) false reading
    have hcode : failed.code = 1 := by decide +kernel
    cases hc : compiled world reading with
    | error failure =>
        obtain ⟨_, hstdout, _, hfiles⟩ := houtputs.1 failure hc
        exact ⟨hcode, hstdout, hfiles⟩
    | ok c =>
        have hzero := (houtputs.2 c hc).1.2 fun path hpath => Option.some.inj hpath ▸ hwritable
        cases hcode.symm.trans hzero

end CommandLine

end FilterQuery
