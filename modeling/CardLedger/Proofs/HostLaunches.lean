import CardLedger.Host.FileTree
import CardLedger.Proofs.Launches

/-!
# Starts on a host

On a host a start first sets variables and reads settings, and then starts on the store that it finds
under the URL. Held against a tree of files, the first part writes nothing, so that a start that is
stopped by its settings leaves every file as it was, and the second part is a start on the store.
-/

namespace CardLedger.Host

/-- Start on the store of a URL: open it, start, and keep what has come of it however the start ended. -/
def launchAt {m : Type → Type} [Monad m] (host : Host m) (url : String) (l : Launch) :
    ExceptT Error m Unit := do
  host.prepare url
  match Location.ofUrl? url with
  | none => throw (.database "no URL of a store")
  | some location =>
      let before ← host.openStore location
      host.keepStore before (before.launch l).2 location
      liftExcept (before.launch l).1

variable {environment known : List (String × String)} {ambient : Nat → Ambient} {tree : FileTree}

section

variable {α β : Type} {x : ExceptT Error (StateM FileTree) α} {f : α → ExceptT Error (StateM FileTree) β}
  {next : FileTree}

theorem run_bind_of_ok {v : α} (hFirst : x.run tree = (.ok v, next)) :
    (x >>= f).run tree = (f v).run next := by
  have hRun : (x >>= f).run tree = ExceptT.bindCont f (x.run tree).1 (x.run tree).2 := rfl
  rw [hRun, hFirst]
  rfl

theorem run_bind_of_error {e : Error} (hFirst : x.run tree = (.error e, next)) :
    (x >>= f).run tree = (.error e, next) := by
  have hRun : (x >>= f).run tree = ExceptT.bindCont f (x.run tree).1 (x.run tree).2 := rfl
  rw [hRun, hFirst]
  rfl

theorem run_pure_bind (v : α) :
    ((liftM (pure v : StateM FileTree α) : ExceptT Error (StateM FileTree) α) >>= f).run tree =
      (f v).run tree := rfl

theorem run_entry_bind (path : Path) (f : FileEntry → ExceptT Error (StateM FileTree) β) :
    ((liftM ((FileTree.host environment ambient).entry path) : ExceptT Error (StateM FileTree) FileEntry) >>=
        f).run tree =
      (f (tree.entry path)).run tree := rfl

theorem run_liftExcept (outcome : Except Error α) :
    (liftExcept outcome : ExceptT Error (StateM FileTree) α).run tree = (outcome, tree) := by
  cases outcome with
  | error e => rfl
  | ok v => rfl

end

/-! ## Reading -/

theorem lookup_on_tree (name : String) :
    (FileTree.host environment ambient).lookup known name =
      pure ((environment.lookup name).or (known.lookup name)) := by
  unfold lookup
  cases hSet : environment.lookup name with
  | none => simp [FileTree.host, hSet]
  | some text => simp [FileTree.host, hSet]

theorem resolve_on_tree (environment : List (String × String)) (ambient : Nat → Ambient)
    (known : List (String × String)) (pieces : List Piece) :
    ∃ text, (FileTree.host environment ambient).resolve known pieces = pure text := by
  induction pieces with
  | nil => exact ⟨"", rfl⟩
  | cons piece rest ih =>
      obtain ⟨text, hRest⟩ := ih
      cases piece with
      | char c => exact ⟨_, by rw [resolve, hRest, pure_bind]⟩
      | reference name =>
          exact ⟨_, by rw [resolve, lookup_on_tree, pure_bind, hRest, pure_bind]⟩

theorem assign_on_tree (environment : List (String × String)) (ambient : Nat → Ambient)
    (known : List (String × String)) (assignments : List Assignment) :
    ∃ outcome, ((FileTree.host environment ambient).assign known assignments).run = pure outcome := by
  induction assignments generalizing known with
  | nil => exact ⟨.ok known, rfl⟩
  | cons assignment rest ih =>
      obtain ⟨text, hText⟩ := resolve_on_tree environment ambient known assignment.value
      unfold assign
      rw [hText, lookup_on_tree]
      simp only [ExceptT.run_bind, ExceptT.run_monadLift, monadLift_self, map_pure, pure_bind]
      split
      · exact ih _
      · split
        · exact ⟨_, rfl⟩
        · exact ih _

theorem assigned_on_tree (environment : List (String × String)) (ambient : Nat → Ambient)
    (tree : FileTree) :
    ∃ outcome, (FileTree.host environment ambient).assigned.run tree = (outcome, tree) := by
  unfold assigned
  rw [run_entry_bind]
  split
  · next text _ =>
      obtain ⟨outcome, hAssign⟩ := assign_on_tree environment ambient [] (Assignment.ofText text)
      exact ⟨outcome, by rw [hAssign]; rfl⟩
  · exact ⟨.ok [], rfl⟩

theorem loadSettings_on_tree (environment : List (String × String)) (ambient : Nat → Ambient)
    (tree : FileTree) (path : String) :
    ((FileTree.host environment ambient).loadSettings path).run tree =
      (Settings.ofEntry path (tree.entry (Path.ofText path)), tree) := by
  unfold loadSettings Settings.ofEntry
  split
  · rfl
  · rw [run_entry_bind]
    cases tree.entry (Path.ofText path) with
    | absent => rfl
    | directory => exact run_liftExcept _
    | file text => exact run_liftExcept _
    | unreadable reason => exact run_liftExcept _

/-! ## Starts -/

theorem startAt_on_tree {url : String} {l : Launch} {settings : Settings}
    (hAmbient : l.ambient = ambient) (hSettings : l.settings = .ok settings) :
    (FileTree.host environment ambient).startAt url settings =
      (FileTree.host environment ambient).launchAt url l := by
  unfold startAt launchAt Store.launch
  rw [hSettings, hAmbient]
  rfl

/-- A start on a tree of files is stopped by an assignment of a variable, or is a start on the store of a
URL with what stands under a path; what stops it before it has its settings leaves the tree as it was. -/
theorem start_on_tree (environment : List (String × String)) (ambient : Nat → Ambient) (tree : FileTree) :
    (∃ e, (FileTree.host environment ambient).assigned.run tree = (.error e, tree) ∧
        (FileTree.host environment ambient).start.run tree = (.error e, tree)) ∨
      ∃ path url,
        let l : Launch := ⟨path, tree.entry (Path.ofText path), ambient⟩
        (∀ e, l.settings = .error e →
          (FileTree.host environment ambient).start.run tree = (.error e, tree)) ∧
        ∀ settings, l.settings = .ok settings →
          (FileTree.host environment ambient).start.run tree =
            ((FileTree.host environment ambient).launchAt url l).run tree := by
  obtain ⟨outcome, hAssigned⟩ := assigned_on_tree environment ambient tree
  unfold start
  cases outcome with
  | error e => exact .inl ⟨e, hAssigned, run_bind_of_error hAssigned⟩
  | ok known =>
      rw [run_bind_of_ok hAssigned]
      simp only [lookup_on_tree]
      generalize (environment.lookup "CORPCARDS_CONFIG").or (known.lookup "CORPCARDS_CONFIG") = path
      generalize (environment.lookup "DATABASE_URL").or (known.lookup "DATABASE_URL") = url
      have hLoad := loadSettings_on_tree environment ambient tree (path.getD "config.toml")
      refine .inr ⟨path.getD "config.toml", url.getD "sqlite://data/corpcards.sqlite?mode=rwc",
        fun e hSettings => ?_, fun settings hSettings => ?_⟩
      · rw [run_pure_bind]
        exact run_bind_of_error (hLoad.trans (by rw [← hSettings]; rfl))
      · rw [run_pure_bind,
          run_bind_of_ok (hLoad.trans (by rw [← hSettings]; rfl)),
          run_pure_bind, startAt_on_tree rfl hSettings]

end CardLedger.Host
