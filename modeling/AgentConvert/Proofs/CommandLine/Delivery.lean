import AgentConvert.CommandLine.Run
import Mathlib

/-!
# Delivery

A file system that keeps what is written to it (`LawfulFileSystem`) has a place for each path that
leads to a file. Writing changes what is read at one place only, so behind a list of actions a file
holds what was written to it last (`Outcome.read_foldl_write`), or else what it held before
(`Outcome.read_foldl`). A tree of directories is such a file system.

The document of a conversion is delivered as a whole or not at all, and the report is written in
either case (`Delivery`, `run_delivers`).
-/

namespace AgentConvert.CommandLine

open FileSystem

/-! ## Files -/

/-- A file system that keeps what is written to it, and in which a path leads to one place. -/
class LawfulFileSystem (σ : Type) (Place : outParam Type) [FileSystem σ] where
  /-- The place that a path leads to; there need not be a file yet. -/
  place? : σ → String → Option Place
  /-- What can be written has a place. -/
  exists_place {files written : σ} {path : String} {content : ByteArray} :
    write files path content = .ok written → ∃ place, place? files path = some place
  /-- Writing a file leaves paths with the places that they lead to. -/
  place?_write {files written : σ} {path path' : String} {content : ByteArray} {place : Place} :
    write files path content = .ok written → place? files path' = some place →
      place? written path' = some place
  /-- What was written is read. -/
  read_write {files written : σ} {path : String} {content : ByteArray} :
    write files path content = .ok written → read written path = .ok content
  /-- At every other place the same is read as before. -/
  read_write_apart {files written : σ} {path path' : String} {content : ByteArray} {place : Place} :
    write files path content = .ok written → place? files path' = some place →
      place? files path ≠ some place → read written path' = read files path'

open LawfulFileSystem

variable {o : Options}

/-- Whether one of the files that options name is written. -/
def Options.Writes {σ : Type} [FileSystem σ] (o : Options) (files written : σ) : Prop :=
  ∃ path content, (path ∈ o.output ∨ path ∈ o.report) ∧ write files path content = .ok written

/-- Whether the files that options name can be written, also behind one another. -/
def Options.CanWrite {σ : Type} [FileSystem σ] (o : Options) (files : σ) : Prop :=
  ∀ reached, Relation.ReflTransGen o.Writes files reached →
    ∀ path, path ∈ o.output ∨ path ∈ o.report → ∀ content,
      ∃ written, write reached path content = .ok written

namespace FileTree

variable {t u : FileTree} {path : String} {names : List String}

/-- Where a path leads depends on the directories alone. -/
theorem walk_of_walk (h : t.directories = u.directories) {parts : List String} {start : List String}
    (hwalk : t.walk start parts = .ok names) : u.walk start parts = .ok names := by
  induction parts generalizing start with
  | nil => exact hwalk
  | cons part rest ih =>
    have hsame : u.isDirectory start = t.isDirectory start := by rw [isDirectory, isDirectory, h]
    unfold walk at hwalk ⊢
    split at hwalk
    · rename_i hdirectory
      rw [if_pos (hsame.trans hdirectory)]
      exact ih hwalk
    · exact absurd hwalk (by simp)

theorem resolve_put (h : t.resolve path = .ok names) (other : List String) (content : ByteArray) :
    (t.put other content).resolve path = .ok names := by
  unfold resolve at h ⊢
  dsimp only at h ⊢
  split at h
  · exact absurd h (by simp)
  rename_i hpath
  rw [if_neg hpath]
  split at h
  · exact absurd h (by simp)
  · rename_i hwalk
    have hsame := walk_of_walk (t := t) (u := t.put other content) rfl hwalk
    rw [show (t.put other content).current = t.current from rfl, hsame]
    exact h

theorem file?_put (t : FileTree) (names : List String) (content : ByteArray)
    (names' : List String) :
    (t.put names content).file? names' = if names = names' then some content
      else t.file? names' := by
  unfold file? put
  by_cases hnames : names = names'
  · simp [hnames]
  · have hother : (t.files.filter (·.1 != names)).find? (·.1 == names') =
        t.files.find? (·.1 == names') := by
      rw [List.find?_filter]
      congr 1
      funext file
      by_cases hfile : file.1 = names'
      · simp [hfile, Ne.symm hnames]
      · simp [hfile]
    simp [hnames, hother]

theorem read_eq (h : t.resolve path = .ok names) : read t path = match t.file? names with
    | some content => .ok content
    | none => .error FileFault.notFound.message := by
  cases hfile : t.file? names <;> simp only [FileSystem.read, h, hfile]

theorem write_eq (h : t.resolve path = .ok names) (content : ByteArray) :
    write t path content = .ok (t.put names content) := by
  simp only [FileSystem.write, h]

theorem exists_names {content : ByteArray} (h : write t path content = .ok u) :
    ∃ names, t.resolve path = .ok names ∧ u = t.put names content := by
  cases hresolve : t.resolve path with
  | ok names =>
    rw [write_eq hresolve] at h
    exact ⟨names, rfl, (Except.ok.inj h).symm⟩
  | error fault =>
    simp only [FileSystem.write, hresolve] at h
    exact absurd h (by simp)

theorem toOption_eq_some_iff : (t.resolve path).toOption = some names ↔
    t.resolve path = .ok names := by
  cases t.resolve path <;> simp [Except.toOption]

instance : LawfulFileSystem FileTree (List String) where
  place? t path := (t.resolve path).toOption
  exists_place h := by
    obtain ⟨names, hnames, -⟩ := exists_names h
    exact ⟨names, toOption_eq_some_iff.2 hnames⟩
  place?_write h hplace := by
    obtain ⟨names, -, rfl⟩ := exists_names h
    exact toOption_eq_some_iff.2 (resolve_put (toOption_eq_some_iff.1 hplace) _ _)
  read_write {t u path content} h := by
    obtain ⟨names, hnames, rfl⟩ := exists_names h
    rw [read_eq (resolve_put hnames _ _), file?_put, if_pos rfl]
  read_write_apart {t u path path' content place} h hplace hapart := by
    obtain ⟨names, hnames, rfl⟩ := exists_names h
    have hplace := toOption_eq_some_iff.1 hplace
    have hne : names ≠ place := fun heq => hapart (toOption_eq_some_iff.2 (heq ▸ hnames))
    rw [read_eq (resolve_put hplace _ _), read_eq hplace, file?_put, if_neg hne]

/-- In a tree of directories, paths that lead to files stay so. -/
theorem canWrite (h : ∀ path, path ∈ o.output ∨ path ∈ o.report →
    ∃ names, t.resolve path = .ok names) : o.CanWrite t := by
  intro reached hreached
  have hstay : ∀ path, path ∈ o.output ∨ path ∈ o.report →
      ∃ names, reached.resolve path = .ok names := by
    induction hreached with
    | refl => exact h
    | tail _ hwrites ih =>
      obtain ⟨_, content, -, hwrite⟩ := hwrites
      obtain ⟨other, -, rfl⟩ := exists_names hwrite
      intro path hpath
      obtain ⟨names, hnames⟩ := ih path hpath
      exact ⟨names, resolve_put hnames _ _⟩
  intro path hpath content
  obtain ⟨names, hnames⟩ := hstay path hpath
  exact ⟨_, write_eq hnames content⟩

end FileTree

/-! ## Actions -/

namespace Action

/-- What an action puts on the output channel. -/
def printed : Action → ByteArray
  | print document => document
  | say _ => .empty
  | write .. => .empty

/-- Whether an action writes no file but those that options name. -/
def IsOf (o : Options) : Action → Prop
  | write path _ _ => path ∈ o.output ∨ path ∈ o.report
  | _ => True

end Action

section

variable {σ Place : Type} [FileSystem σ] {files written : σ} {path : String} {content : ByteArray}
  {actions : List Action}

theorem Options.CanWrite.of_writes (h : o.CanWrite files) (hwrites : o.Writes files written) :
    o.CanWrite written :=
  fun reached hreached => h reached (.head hwrites hreached)

theorem Options.CanWrite.exists_written (h : o.CanWrite files)
    (hpath : path ∈ o.output ∨ path ∈ o.report) (content : ByteArray) :
    ∃ written, write files path content = .ok written ∧ o.CanWrite written := by
  obtain ⟨written, hwrite⟩ := h files .refl path hpath content
  exact ⟨written, hwrite, h.of_writes ⟨path, content, hpath, hwrite⟩⟩

namespace Outcome

/-- The outcome behind one more action, if this can be carried out. -/
def after (s : Outcome σ) : Action → Outcome σ
  | .say text => { s with errors := s.errors ++ text }
  | .print document => { s with output := s.output ++ document }
  | .write path content _ =>
    { s with files := (write s.files path content).toOption.getD s.files }

variable {s : Outcome σ}

theorem files_after_write (h : write s.files path content = .ok written) (complaint : String) :
    (s.after (.write path content complaint)).files = written := by
  rw [after, h]
  rfl

theorem exitCode_foldl (s : Outcome σ) (actions : List Action) :
    (actions.foldl after s).exitCode = s.exitCode := by
  induction actions generalizing s with
  | nil => rfl
  | cons action rest ih =>
    rw [List.foldl_cons, ih]
    cases action <;> rfl

theorem output_foldl (s : Outcome σ) (actions : List Action) :
    (actions.foldl after s).output =
      actions.foldl (fun output action => output ++ action.printed) s.output := by
  induction actions generalizing s with
  | nil => rfl
  | cons action rest ih =>
    have hafter : (s.after action).output = s.output ++ action.printed := by
      cases action with
      | print document => rfl
      | say text => exact ByteArray.append_empty.symm
      | write path content complaint => exact ByteArray.append_empty.symm
    rw [List.foldl_cons, List.foldl_cons, ih, hafter]

theorem canWrite_after (h : o.CanWrite s.files) {action : Action} (haction : action.IsOf o) :
    o.CanWrite (s.after action).files := by
  cases action with
  | write path content complaint =>
    obtain ⟨written, hwrite, hcan⟩ := h.exists_written haction content
    rwa [files_after_write hwrite]
  | say text => exact h
  | print document => exact h

theorem canWrite_foldl (h : o.CanWrite s.files) (hactions : ∀ action ∈ actions, action.IsOf o) :
    o.CanWrite (actions.foldl after s).files := by
  induction actions generalizing s with
  | nil => exact h
  | cons action rest ih =>
    obtain ⟨haction, hrest⟩ := List.forall_mem_cons.1 hactions
    exact ih (canWrite_after h haction) hrest

end Outcome

/-- Actions whose files can be written are all carried out. -/
theorem Plan.perform_eq (h : o.CanWrite files) (hactions : ∀ action ∈ actions, action.IsOf o)
    (exitCode : Nat) (output : ByteArray) (errors : String) :
    perform exitCode output errors files actions =
      actions.foldl Outcome.after ⟨output, errors, files, exitCode⟩ := by
  induction actions generalizing output errors files with
  | nil => rfl
  | cons action rest ih =>
    obtain ⟨haction, hrest⟩ := List.forall_mem_cons.1 hactions
    cases action with
    | say text => exact ih h hrest _ _
    | print document => exact ih h hrest _ _
    | write path content complaint =>
      obtain ⟨written, hwrite, hcan⟩ := h.exists_written haction content
      rw [perform, hwrite, List.foldl_cons, Outcome.after, hwrite]
      exact ih hcan hrest _ _

variable [LawfulFileSystem σ Place] {place : Place}

theorem Options.CanWrite.exists_place (h : o.CanWrite files)
    (hpath : path ∈ o.output ∨ path ∈ o.report) : ∃ place, place? files path = some place := by
  obtain ⟨written, hwrite, -⟩ := h.exists_written hpath .empty
  exact LawfulFileSystem.exists_place hwrite

/-- Whether an action writes at no place but others. -/
def Action.IsApart (files : σ) (place : Place) : Action → Prop
  | write path _ _ => ∃ other, place? files path = some other ∧ other ≠ place
  | _ => True

namespace Outcome

variable {s : Outcome σ}

theorem place?_after (h : place? s.files path = some place) (action : Action) :
    place? (s.after action).files path = some place := by
  cases action with
  | write path' content complaint =>
    cases hwrite : write s.files path' content with
    | ok written =>
      rw [files_after_write hwrite]
      exact place?_write hwrite h
    | error reason =>
      rw [after, hwrite]
      exact h
  | say text => exact h
  | print document => exact h

theorem isApart_after {action' : Action} (h : action'.IsApart s.files place) (action : Action) :
    action'.IsApart (s.after action).files place := by
  cases action' with
  | write path content complaint =>
    obtain ⟨other, hother, hne⟩ := h
    exact ⟨other, place?_after hother action, hne⟩
  | say text => trivial
  | print document => trivial

/-- What is elsewhere is read as before. -/
theorem read_after (hplace : place? s.files path = some place) {action : Action}
    (h : action.IsApart s.files place) :
    read (s.after action).files path = read s.files path := by
  cases action with
  | write path' content complaint =>
    obtain ⟨other, hother, hne⟩ := h
    cases hwrite : write s.files path' content with
    | ok written =>
      rw [files_after_write hwrite]
      refine read_write_apart hwrite hplace fun heq => hne ?_
      exact Option.some_inj.1 (hother.symm.trans heq)
    | error reason => rw [after, hwrite]; rfl
  | say text => rfl
  | print document => rfl

theorem place?_foldl (h : place? s.files path = some place) (actions : List Action) :
    place? (actions.foldl after s).files path = some place := by
  induction actions generalizing s with
  | nil => exact h
  | cons action rest ih => exact ih (place?_after h action)

theorem isApart_foldl {action : Action} (h : action.IsApart s.files place) (actions : List Action) :
    action.IsApart (actions.foldl after s).files place := by
  induction actions generalizing s with
  | nil => exact h
  | cons action' rest ih => exact ih (isApart_after h action')

/-- Actions that write elsewhere leave a file as it was. -/
theorem read_foldl (hplace : place? s.files path = some place)
    (h : ∀ action ∈ actions, action.IsApart s.files place) :
    read (actions.foldl after s).files path = read s.files path := by
  induction actions generalizing s with
  | nil => rfl
  | cons action rest ih =>
    obtain ⟨haction, hrest⟩ := List.forall_mem_cons.1 h
    rw [List.foldl_cons, ih (place?_after hplace action) fun action' hmem =>
      isApart_after (hrest action' hmem) action, read_after hplace haction]

/-- A file holds what was written to it last. -/
theorem read_foldl_write (h : o.CanWrite s.files) {before rest : List Action} {complaint : String}
    (hactions : ∀ action ∈ before ++ .write path content complaint :: rest, action.IsOf o)
    (hplace : place? s.files path = some place)
    (hrest : ∀ action ∈ rest, action.IsApart s.files place) :
    read ((before ++ .write path content complaint :: rest).foldl after s).files path =
      .ok content := by
  obtain ⟨hbefore, hwrite, -⟩ : _ ∧ _ ∧ _ := by
    simpa only [List.forall_mem_append, List.forall_mem_cons] using hactions
  rw [List.foldl_append, List.foldl_cons]
  obtain ⟨written, hwritten, -⟩ := (canWrite_foldl h hbefore).exists_written hwrite content
  rw [read_foldl (place?_after (place?_foldl hplace before) _) fun action hmem =>
    isApart_after (isApart_foldl (hrest action hmem) before) _, files_after_write hwritten]
  exact read_write hwritten

end Outcome

/-! ## Conversions -/

/-- Whether the files that options name can be written, and are not the same. -/
structure Options.HasFiles (o : Options) (files : σ) : Prop where
  canWrite : o.CanWrite files
  apart : ∀ path ∈ o.output, ∀ path' ∈ o.report, place? files path ≠ place? files path'

theorem Options.HasFiles.not_mem_report (h : o.HasFiles files) (hpath : path ∈ o.output) :
    path ∉ o.report :=
  fun hreport => h.apart path hpath path hreport rfl

namespace Plan

variable {c : Conversion} {document : ByteArray}

theorem isBlocked_eq_false_iff : isBlocked o c = false ↔
    (∀ finding ∈ c.findings, finding.severity ≠ .error) ∨ o.bypassErrors = true := by
  cases hbypass : o.bypassErrors <;>
    simp [isBlocked, hbypass, Conversion.hasErrors, Diagnostics.hasErrors]

theorem mem_ofConversion {action : Action} : action ∈ (ofConversion o c).actions ↔
    action = .say (findingsText o.findings o.isQuiet c.findings) ∨
    action ∈ reportActions o c ∨ action = delivery o c := by
  simp [ofConversion]

theorem print_mem_ofConversion : .print document ∈ (ofConversion o c).actions ↔
    isBlocked o c = false ∧ o.output = none ∧ document = c.document := by
  rw [mem_ofConversion]
  unfold reportActions delivery
  cases o.report <;> cases o.output <;> cases isBlocked o c <;> simp

theorem write_mem_ofConversion :
    (∃ complaint, .write path content complaint ∈ (ofConversion o c).actions) ↔
      path ∈ o.report ∧ content = (Report.render c.findings).toUTF8 ∨
      isBlocked o c = false ∧ path ∈ o.output ∧ content = c.document := by
  simp only [mem_ofConversion]
  unfold reportActions delivery
  cases o.report <;> cases o.output <;> cases isBlocked o c <;> simp [eq_comm, exists_or]

theorem isOf_ofConversion (o : Options) (c : Conversion) :
    ∀ action ∈ (ofConversion o c).actions, action.IsOf o := by
  intro action haction
  cases action with
  | write path content complaint =>
    exact (write_mem_ofConversion.1 ⟨complaint, haction⟩).elim (.inr ·.1) (.inl ·.2.1)
  | say text => trivial
  | print document => trivial

variable (h : o.HasFiles files) (c : Conversion)

include h

theorem outcome_ofConversion : (ofConversion o c).outcome files =
    (ofConversion o c).actions.foldl Outcome.after
      ⟨.empty, "", files, if isBlocked o c then 1 else 0⟩ :=
  perform_eq h.canWrite (isOf_ofConversion o c) _ _ _

theorem exitCode_ofConversion :
    ((ofConversion o c).outcome files).exitCode = if isBlocked o c then 1 else 0 := by
  rw [outcome_ofConversion h, Outcome.exitCode_foldl]

/-- Printed is the document, if it is delivered there. -/
theorem output_ofConversion : ((ofConversion o c).outcome files).output =
    if isBlocked o c = false ∧ o.output = none then c.document else .empty := by
  rw [outcome_ofConversion h, Outcome.output_foldl]
  unfold ofConversion reportActions delivery
  cases o.report <;> cases o.output <;> cases isBlocked o c <;> simp [Action.printed]

/-- A conversion writes elsewhere than at a place, unless the report or a document that is not kept
back goes there. -/
theorem isApart_ofConversion (hreport : ∀ path ∈ o.report, place? files path ≠ some place)
    (houtput : isBlocked o c = false → ∀ path ∈ o.output, place? files path ≠ some place) :
    ∀ action ∈ (ofConversion o c).actions, action.IsApart files place := by
  intro action haction
  cases action with
  | write path content complaint =>
    obtain ⟨other, hother⟩ := h.canWrite.exists_place (isOf_ofConversion o c _ haction)
    refine ⟨other, hother, fun heq => ?_⟩
    rw [heq] at hother
    rcases write_mem_ofConversion.1 ⟨complaint, haction⟩ with ⟨hpath, -⟩ | ⟨hfree, hpath, -⟩
    · exact hreport path hpath hother
    · exact houtput hfree path hpath hother
  | say text => trivial
  | print document => trivial

theorem read_of_isApart (hplace : place? files path = some place)
    (hapart : ∀ action ∈ (ofConversion o c).actions, action.IsApart files place) :
    read ((ofConversion o c).outcome files).files path = read files path := by
  rw [outcome_ofConversion h]
  exact Outcome.read_foldl hplace hapart

theorem read_of_write {before rest : List Action} {complaint : String}
    (hactions : (ofConversion o c).actions = before ++ .write path content complaint :: rest)
    (hplace : place? files path = some place)
    (hrest : ∀ action ∈ rest, action.IsApart files place) :
    read ((ofConversion o c).outcome files).files path = .ok content := by
  have hof := isOf_ofConversion o c
  rw [hactions] at hof
  rw [outcome_ofConversion h, hactions]
  exact Outcome.read_foldl_write h.canWrite hof hplace hrest

theorem read_output_ofConversion (hpath : path ∈ o.output) :
    read ((ofConversion o c).outcome files).files path =
      if isBlocked o c then read files path else .ok c.document := by
  obtain ⟨place, hplace⟩ := h.canWrite.exists_place (.inl hpath)
  cases hblocked : isBlocked o c with
  | true =>
    refine read_of_isApart h c hplace (isApart_ofConversion h c (fun path' hpath' heq => ?_) ?_)
    · exact h.apart path hpath path' hpath' (hplace.trans heq.symm)
    · rw [hblocked]
      exact fun hfree => absurd hfree (by simp)
  | false =>
    have hdelivery : delivery o c = .write path c.document "failed to write output" := by
      rw [delivery, hblocked, Option.mem_def.1 hpath]
      rfl
    have hactions : (ofConversion o c).actions =
        (.say (findingsText o.findings o.isQuiet c.findings) :: reportActions o c) ++
          .write path c.document "failed to write output" :: [] := by
      rw [ofConversion, hdelivery]
    exact read_of_write h c hactions hplace (by simp)

theorem read_report_ofConversion (hpath : path ∈ o.report) :
    read ((ofConversion o c).outcome files).files path =
      .ok (Report.render c.findings).toUTF8 := by
  obtain ⟨place, hplace⟩ := h.canWrite.exists_place (.inr hpath)
  have hactions : (ofConversion o c).actions =
      [.say (findingsText o.findings o.isQuiet c.findings)] ++
        .write path (Report.render c.findings).toUTF8 ("failed to write report " ++ path) ::
          [delivery o c] := by
    rw [ofConversion, reportActions, Option.mem_def.1 hpath]
    rfl
  refine read_of_write h c hactions hplace fun action hmem => ?_
  obtain rfl := List.mem_singleton.1 hmem
  unfold delivery
  split
  · trivial
  · split
    · rename_i path' houtput
      obtain ⟨other, hother⟩ := h.canWrite.exists_place (.inl houtput)
      refine ⟨other, hother, fun heq => h.apart path' houtput path hpath ?_⟩
      rw [hother, hplace, heq]
    · trivial

theorem read_other_ofConversion (hplace : place? files path = some place)
    (hother : ∀ path', path' ∈ o.output ∨ path' ∈ o.report → place? files path' ≠ some place) :
    read ((ofConversion o c).outcome files).files path = read files path :=
  read_of_isApart h c hplace (isApart_ofConversion h c
    (fun path' hpath' => hother path' (.inr hpath'))
    fun _ path' hpath' => hother path' (.inl hpath'))

end Plan

/-! ## Runs -/

/-- Whether options ask for this document of a conversion to be delivered, if there is one: it has
no errors, or they are bypassed. -/
def Options.Releases (o : Options) (loaded? : Option Conversion) (document : ByteArray) : Prop :=
  ∃ c ∈ loaded?, document = c.document ∧
    ((∀ finding ∈ c.findings, finding.severity ≠ .error) ∨ o.bypassErrors = true)

theorem not_releases_none (document : ByteArray) : ¬ o.Releases none document := by
  rintro ⟨c, hc, -⟩
  exact absurd hc (by simp)

theorem releases_some_iff {c : Conversion} {document : ByteArray} :
    o.Releases (some c) document ↔ Plan.isBlocked o c = false ∧ document = c.document := by
  rw [Options.Releases, Plan.isBlocked_eq_false_iff]
  simp [and_comm]

/-- What a run on files does with a conversion, if it has one. -/
structure Delivery (o : Options) (files : σ) (loaded? : Option Conversion) (actions : List Action)
    (outcome : Outcome σ) : Prop where
  /-- The document that is released, and nothing else, goes to the output path, or is printed if
  there is none. -/
  sent : ∀ document, o.Releases loaded? document ↔ match o.output with
    | some path => ∃ complaint, .write path document complaint ∈ actions
    | none => .print document ∈ actions
  /-- With a document that is released, the run succeeds and the document is in its place. -/
  delivered : ∀ document, o.Releases loaded? document →
    outcome.exitCode = 0 ∧ match o.output with
      | some path => read outcome.files path = .ok document ∧ outcome.output = .empty
      | none => outcome.output = document
  /-- Without one, the run fails, prints nothing and leaves the output path as it was. -/
  kept : (∀ document, ¬ o.Releases loaded? document) →
    outcome.exitCode = 1 ∧ outcome.output = .empty ∧
      ∀ path ∈ o.output, read outcome.files path = read files path
  /-- The report is written if there is a conversion, be its document released or not. -/
  report : ∀ path ∈ o.report,
    ((∃ content complaint, .write path content complaint ∈ actions) ↔ loaded?.isSome) ∧
    read outcome.files path = match loaded? with
      | some c => .ok (Report.render c.findings).toUTF8
      | none => read files path
  /-- All other files are as they were. -/
  others : ∀ path place, place? files path = some place →
    (∀ path', path' ∈ o.output ∨ path' ∈ o.report → place? files path' ≠ some place) →
    read outcome.files path = read files path

variable {arguments : List String}

theorem delivery_failing (o : Options) (files : σ) (complaint : String) :
    Delivery o files none (Plan.failing complaint).actions
      ((Plan.failing complaint).outcome files) where
  sent document := by
    refine iff_of_false (not_releases_none document) ?_
    cases o.output <;> simp [Plan.failing]
  delivered document h := absurd h (not_releases_none document)
  kept _ := ⟨rfl, rfl, fun _ _ => rfl⟩
  report _ _ := ⟨by simp [Plan.failing], rfl⟩
  others _ _ _ _ := rfl

theorem delivery_ofConversion (h : o.HasFiles files) (c : Conversion) :
    Delivery o files (some c) (Plan.ofConversion o c).actions
      ((Plan.ofConversion o c).outcome files) where
  sent document := by
    rw [releases_some_iff]
    cases houtput : o.output with
    | none => rw [Plan.print_mem_ofConversion, houtput, eq_self, true_and]
    | some path =>
      dsimp only
      rw [Plan.write_mem_ofConversion, houtput]
      have hother := h.not_mem_report houtput
      simp [hother]
  delivered document hreleased := by
    obtain ⟨hblocked, rfl⟩ := releases_some_iff.1 hreleased
    rw [Plan.exitCode_ofConversion h, Plan.output_ofConversion h, hblocked]
    refine ⟨rfl, ?_⟩
    cases houtput : o.output with
    | none => simp
    | some path =>
      refine ⟨?_, by simp⟩
      rw [Plan.read_output_ofConversion h c houtput, hblocked]
      rfl
  kept hkept := by
    have hblocked : Plan.isBlocked o c = true := eq_true_of_ne_false fun hfree =>
      hkept c.document (releases_some_iff.2 ⟨hfree, rfl⟩)
    rw [Plan.exitCode_ofConversion h, Plan.output_ofConversion h, hblocked]
    refine ⟨rfl, by simp, fun path hpath => ?_⟩
    rw [Plan.read_output_ofConversion h c hpath, hblocked]
    rfl
  report path hpath := by
    have hwritten := (Plan.write_mem_ofConversion (c := c)).2 (.inl ⟨hpath, rfl⟩)
    exact ⟨iff_of_true ⟨_, hwritten⟩ rfl, Plan.read_report_ofConversion h c hpath⟩
  others _ _ := Plan.read_other_ofConversion h c

/-- The conversion of the configuration that options name, if it is loaded. -/
def Options.conversion? (o : Options) (files : σ) (lookup : String → Option String) :
    Option Conversion := do
  let bytes ← (read files o.file).toOption
  let lookup? := if o.expandsEnvironment then some lookup else none
  (Conversion.ofBytes .builtin o.format lookup? bytes).toOption

/-- A run either has a conversion, or complains and fails. -/
theorem plan_eq (h : Request.ofArguments arguments = .ok (.convert o)) (files : σ)
    (lookup : String → Option String) :
    match o.conversion? files lookup with
    | some c => plan files lookup arguments = .ofConversion o c
    | none => ∃ complaint, plan files lookup arguments = .failing complaint := by
  unfold plan Options.conversion?
  rw [h]
  dsimp only
  cases read files o.file with
  | error reason => exact ⟨_, rfl⟩
  | ok bytes =>
    show match (Conversion.ofBytes _ _ _ bytes).toOption with | some c => _ | none => _
    unfold Plan.ofBytes
    dsimp only
    cases Conversion.ofBytes .builtin o.format
      (if o.expandsEnvironment then some lookup else none) bytes with
    | ok c => rfl
    | error fault => exact ⟨_, rfl⟩

/-- In a file system that keeps what is written to it, a run whose files can be written, and are not
the same, delivers the document of its configuration as a whole if that is loaded, and has no errors
or they are bypassed; otherwise it delivers nothing and fails. It writes the report if the
configuration is loaded, in either case. -/
theorem run_delivers (files : σ) (lookup : String → Option String)
    (hrequest : Request.ofArguments arguments = .ok (.convert o)) (hwrite : o.CanWrite files)
    (hapart : ∀ path ∈ o.output, ∀ path' ∈ o.report, place? files path ≠ place? files path') :
    Delivery o files (o.conversion? files lookup) (plan files lookup arguments).actions
      (run files lookup arguments) := by
  have hplan := plan_eq hrequest files lookup
  rw [run]
  cases hloaded : o.conversion? files lookup with
  | none =>
    rw [hloaded] at hplan
    obtain ⟨complaint, hplan⟩ := hplan
    rw [hplan]
    exact delivery_failing o files complaint
  | some c =>
    rw [hloaded] at hplan
    rw [hplan]
    exact delivery_ofConversion ⟨hwrite, hapart⟩ c

end

/-- The findings of a configuration that is not supported. -/
theorem findings_unsupported :
    (Conversion.ofBytes .builtin .agent none "traces: []\n".toUTF8).toOption.map (·.findings) =
      some [.error "traces are not supported and were not converted"] := by
  have hdecoded : Text.Utf8.decode "traces: []\n".toUTF8 = .ok "traces: []\n" := rfl
  have hload : SourceConfig.load .agent none "traces: []\n".toUTF8 =
      SourceConfig.ofText .agent "traces: []\n" := by
    rw [SourceConfig.load, hdecoded]
    rfl
  have hdocument : Yaml.Document.read? "traces: []\n" =
      some ⟨.map [(.scalar .plain none "traces", .list [])], ⟨[], 500⟩⟩ := by cbv
  rw [Conversion.ofBytes, hload, SourceConfig.ofText, if_neg (by decide +kernel), hdocument]
  decide +kernel

/-- A run that keeps its document back, with an old one at the output path. -/
theorem run_delivers_blocked :
    let t : FileTree := {
      directories := [["tmp"], ["tmp", "run"]]
      files := [(["tmp", "run", "config.yaml"], "traces: []\n".toUTF8),
        (["tmp", "run", "out.river"], "old\n".toUTF8)]
      current := ["tmp"] }
    let outcome := run t (fun _ => none)
      ["run/config.yaml", "-f", "static", "-o", "/tmp/run/out.river", "-r", "run/../report.txt"]
    outcome.exitCode = 1 ∧ outcome.output = .empty ∧
    read outcome.files "/tmp/run/out.river" = .ok "old\n".toUTF8 ∧
    read outcome.files "run/../report.txt" = .ok (Report.render
      [.error "traces are not supported and were not converted"]).toUTF8 := by
  intro t outcome
  let o : Options := {
    file := "run/config.yaml"
    format := .agent
    output := some "/tmp/run/out.river"
    report := some "run/../report.txt" }
  have hrequest : Request.ofArguments
      ["run/config.yaml", "-f", "static", "-o", "/tmp/run/out.river", "-r", "run/../report.txt"] =
      .ok (.convert o) := rfl
  have hconfig : t.resolve "run/config.yaml" = .ok ["tmp", "run", "config.yaml"] := by
    decide +kernel
  have houtput : t.resolve "/tmp/run/out.river" = .ok ["tmp", "run", "out.river"] := by
    decide +kernel
  have hreport : t.resolve "run/../report.txt" = .ok ["tmp", "report.txt"] := by decide +kernel
  have hwrite : o.CanWrite t := FileTree.canWrite <| by
    rintro path (hpath | hpath)
    · exact Option.some_inj.1 hpath ▸ ⟨_, houtput⟩
    · exact Option.some_inj.1 hpath ▸ ⟨_, hreport⟩
  have hapart : ∀ path ∈ o.output, ∀ path' ∈ o.report, place? t path ≠ place? t path' := by
    intro path hpath path' hpath' h
    obtain rfl := Option.some_inj.1 hpath
    obtain rfl := Option.some_inj.1 hpath'
    have hsame := (FileTree.toOption_eq_some_iff.2 houtput).symm.trans
      (h.trans (FileTree.toOption_eq_some_iff.2 hreport))
    exact absurd (Option.some_inj.1 hsame) (by decide)
  have hdelivery := run_delivers t (fun _ => none) hrequest hwrite hapart
  have hfindings : (o.conversion? t fun _ => none).map (·.findings) =
      some [.error "traces are not supported and were not converted"] := by
    rw [Options.conversion?, FileTree.read_eq hconfig]
    exact findings_unsupported
  obtain ⟨c, hc, hfindings⟩ := Option.map_eq_some_iff.1 hfindings
  rw [hc] at hdelivery
  obtain ⟨hexit, hprinted, hold⟩ := hdelivery.kept fun document hreleased => by
    obtain ⟨hfree, -⟩ := releases_some_iff.1 hreleased
    rw [Plan.isBlocked_eq_false_iff, hfindings] at hfree
    exact absurd hfree (by decide)
  refine ⟨hexit, hprinted, (hold _ rfl).trans (FileTree.read_eq houtput), ?_⟩
  rw [← hfindings]
  exact (hdelivery.report _ rfl).2

end AgentConvert.CommandLine
