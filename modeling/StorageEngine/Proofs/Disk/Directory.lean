import Mathlib.Logic.Basic
import StorageEngine.Disk.Store

/-!
# The files of one directory

A store makes the files that it is called for, and it writes to them.  Neither makes a directory of
what was none or takes anything away, so that a route which leads to the directory of the store
does so ever after.  What is kept of a volume in this way is enough for the store to find each of
its files again, and to find in it what was there before; a name that no file may have leaves the
volume as it is.
-/

namespace StorageEngine.Disk

namespace Tree

variable {t t' t'' : Tree} {path other : Path} {bytes : Bytes}

theorem node?_store (t : Tree) (other : Path) (bytes : Bytes) (h : path ≠ []) :
  (t.store path bytes).node? other = if other = path then some (.file bytes) else t.node? other
  := by
  by_cases hother : other = []
  · subst hother
    rw [if_neg (Ne.symm h)]
    rfl
  · rw [node?, node?, if_neg hother, if_neg hother, store, Std.ExtTreeMap.getElem?_insert]
    simp only [Std.compare_eq_iff_eq, eq_comm (a := other)]

theorem file?_store (t : Tree) (other : Path) (bytes : Bytes) (h : path ≠ []) :
  (t.store path bytes).file? other = if other = path then some bytes else t.file? other
  := by
  rw [file?, file?, node?_store t other bytes h]
  by_cases hother : other = path
  · rw [if_pos hother, if_pos hother]
  · rw [if_neg hother, if_neg hother]

/-- The second tree has the directories of the first, and something at each path at which the
first has. -/
structure Keeps (t t' : Tree) : Prop where
  isDirectory_eq : ∀ path, t'.isDirectory path = t.isDirectory path
  isSome_node? : ∀ path, (t.node? path).isSome → (t'.node? path).isSome

namespace Keeps

theorem refl (t : Tree) :
  Keeps t t
  := ⟨fun _ => rfl, fun _ => id⟩

theorem trans (h : Keeps t t') (h' : Keeps t' t'') :
  Keeps t t''
  := ⟨fun path => (h'.isDirectory_eq path).trans (h.isDirectory_eq path),
    fun path hpath => h'.isSome_node? path (h.isSome_node? path hpath)⟩

/-- A file takes the place of a file or of nothing. -/
theorem store (bytes : Bytes) (hpath : path ≠ []) (h : t.isDirectory path = false) :
  Keeps t (t.store path bytes)
  := by
  constructor
  · intro other
    rw [isDirectory, node?_store t other bytes hpath]
    by_cases hother : other = path
    · rw [if_pos hother, hother, h]
    · rw [if_neg hother, isDirectory]
  · intro other hother
    rw [node?_store t other bytes hpath]
    split
    · rfl
    · exact hother

theorem target?_eq (h : Keeps t t') (place : Path) (name : String) :
  t'.target? place name = t.target? place name
  := by
  rw [target?, target?, h.isDirectory_eq]

theorem step? {place : Path} {name : String} (h : Keeps t t')
    (hstep : t.step? place name = some path) :
  t'.step? place name = some path
  := by
  rw [Tree.step?, Option.filter_eq_some_iff] at hstep ⊢
  rw [h.target?_eq]
  exact ⟨hstep.1, h.isSome_node? path hstep.2⟩

/-- A walk that leads somewhere leads there ever after. -/
theorem foldlM_step? {steps : List String} {place : Path} (h : Keeps t t')
    (hwalk : steps.foldlM t.step? place = some path) :
  steps.foldlM t'.step? place = some path
  := by
  induction steps generalizing place with
  | nil => exact hwalk
  | cons name steps ih =>
    rw [List.foldlM_cons, Option.bind_eq_bind, Option.bind_eq_some_iff] at hwalk ⊢
    obtain ⟨next, hnext, hrest⟩ := hwalk
    exact ⟨next, h.step? hnext, ih hrest⟩

theorem follow? {r : Route} (h : Keeps t t') (hfollow : t.follow? r = some path) :
  t'.follow? r = some path
  := by
  rw [Tree.follow?, Option.filter_eq_some_iff] at hfollow ⊢
  rw [h.isDirectory_eq]
  exact ⟨h.foldlM_step? hfollow.1, hfollow.2⟩

end Keeps

/-- The second tree has the directories of the first, and it differs from it at one path at most. -/
structure Rewrites (path : Path) (t t' : Tree) : Prop where
  keeps : Keeps t t'
  node?_eq : ∀ other, other ≠ path → t'.node? other = t.node? other

namespace Rewrites

theorem refl (path : Path) (t : Tree) :
  Rewrites path t t
  := ⟨.refl t, fun _ _ => rfl⟩

theorem trans (h : Rewrites path t t') (h' : Rewrites path t' t'') :
  Rewrites path t t''
  := ⟨h.keeps.trans h'.keeps,
    fun other hother => (h'.node?_eq other hother).trans (h.node?_eq other hother)⟩

theorem store (bytes : Bytes) (hpath : path ≠ []) (h : t.isDirectory path = false) :
  Rewrites path t (t.store path bytes)
  := by
  refine ⟨.store bytes hpath h, ?_⟩
  intro other hother
  rw [node?_store t other bytes hpath, if_neg hother]

end Rewrites

/-- What a file that opens has in it is what opening yields, and nothing else is touched. -/
theorem rewrites_of_openFile (hpath : path ≠ []) (h : t.openFile path = .ok (bytes, t')) :
  Rewrites path t t' ∧ t'.isDirectory path = false ∧ (t.file? path).getD [] = bytes
    ∧ t'.file? path = some bytes
  := by
  rw [openFile] at h
  split at h
  · next hnode =>
    cases h
    rw [isDirectory, file?, hnode]
    exact ⟨.refl path t, rfl, rfl, rfl⟩
  · cases h
  · next hnode =>
    split at h
    · cases h
      have hdirectory : t.isDirectory path = false := by
        rw [isDirectory, hnode]
      have hnew := node?_store t path [] hpath
      rw [if_pos rfl] at hnew
      rw [isDirectory, file?, file?, hnode, hnew]
      exact ⟨.store [] hpath hdirectory, rfl, rfl, rfl⟩
    · cases h

/-- What opens as a file is no directory, and it is there or can be made. -/
theorem exists_openFile_iff :
  (∃ r, t.openFile path = .ok r)
    ↔ t.isDirectory path = false ∧ ((t.node? path).isSome ∨ t.hasRoom path)
  := by
  rw [openFile, isDirectory]
  cases hnode : t.node? path with
  | none => by_cases hroom : t.hasRoom path <;> simp [hroom]
  | some node => cases node <;> simp

/-- What opens as a file does so ever after. -/
theorem Keeps.exists_openFile (h : Keeps t t') (hopens : ∃ r, t.openFile path = .ok r) :
  ∃ r, t'.openFile path = .ok r
  := by
  rw [exists_openFile_iff, hasRoom] at hopens ⊢
  rw [h.isDirectory_eq, h.isDirectory_eq]
  exact ⟨hopens.1, hopens.2.imp_left (h.isSome_node? path)⟩

/-- A step leads to a path of names that the operating system takes, from one of that kind. -/
theorem all_acceptsName_of_step? {place : Path} {name : String} (h : place.all acceptsName)
    (hstep : t.step? place name = some path) :
  path.all acceptsName
  := by
  rw [step?, Option.filter_eq_some_iff, target?] at hstep
  obtain ⟨htarget, -⟩ := hstep
  split at htarget
  · split at htarget
    · cases htarget
      rw [List.all_eq_true] at h ⊢
      intro part hpart
      apply h part (List.dropLast_subset _ hpart)
    · split at htarget
      · next haccepts =>
        cases htarget
        rw [List.all_append, h, Bool.true_and, List.all_cons, List.all_nil, Bool.and_true, haccepts]
      · cases htarget
  · cases htarget

theorem all_acceptsName_of_foldlM {steps : List String} {place : Path} (h : place.all acceptsName)
    (hwalk : steps.foldlM t.step? place = some path) :
  path.all acceptsName
  := by
  induction steps generalizing place with
  | nil =>
    cases hwalk
    exact h
  | cons name steps ih =>
    rw [List.foldlM_cons, Option.bind_eq_bind, Option.bind_eq_some_iff] at hwalk
    obtain ⟨next, hnext, hrest⟩ := hwalk
    apply ih (all_acceptsName_of_step? h hnext) hrest

theorem all_acceptsName_of_follow? {r : Route} (h : t.follow? r = some path) :
  path.all acceptsName
  := by
  have hroot : ([] : Path).all acceptsName := rfl
  rw [follow?, Option.filter_eq_some_iff] at h
  apply all_acceptsName_of_foldlM hroot h.1

end Tree

/-! ### The files of a store -/

namespace Volume

/-- The second volume keeps the tree of the first, and its limit. -/
structure Keeps (v v' : Volume) : Prop where
  tree : v.tree.Keeps v'.tree
  limit_eq : v'.limit = v.limit

namespace Keeps

variable {v v' v'' : Volume}

theorem refl (v : Volume) :
  Keeps v v
  := ⟨.refl _, rfl⟩

theorem trans (h : Keeps v v') (h' : Keeps v' v'') :
  Keeps v v''
  := ⟨h.tree.trans h'.tree, h'.limit_eq.trans h.limit_eq⟩

end Keeps

end Volume

namespace Store

variable {s : Store} {v v' : Volume} {name other text : String} {isNew : Bool}

theorem path_ne_nil (s : Store) (name : String) :
  s.path name ≠ []
  := by
  rw [path]
  apply List.append_ne_nil_of_right_ne_nil
  apply List.cons_ne_nil

theorem path_inj :
  s.path name = s.path other ↔ name = other
  := by
  rw [path, path, List.append_cancel_left_eq, List.singleton_inj]

/-- What is in a file, which is nothing as long as the file is not there. -/
def content (s : Store) (name : String) (v : Volume) : Bytes :=
  (v.tree.file? (s.path name)).getD []

/-- Whether the directory of a store is one, and has no directory in it. -/
structure Ready (s : Store) (v : Volume) : Prop where
  isDirectory : v.tree.isDirectory s.directory
  accepted : s.directory.all acceptsName
  isDirectory_path : ∀ name, v.tree.isDirectory (s.path name) = false

theorem Ready.of_keeps (h : s.Ready v) (hkeeps : v.Keeps v') :
  s.Ready v'
  where
  isDirectory := by rw [hkeeps.tree.isDirectory_eq, h.isDirectory]
  accepted := h.accepted
  isDirectory_path name := by rw [hkeeps.tree.isDirectory_eq, h.isDirectory_path]

/-- A file that is written holds what was written, and the others hold what they did. -/
theorem content_store (s : Store) (name other : String) (bytes : Bytes) (v : Volume) :
  s.content other (v.store (s.path name) bytes) = if other = name then bytes else s.content other v
  := by
  rw [content, Volume.store, Tree.file?_store _ _ _ (s.path_ne_nil name)]
  simp only [path_inj]
  split <;> rfl

theorem Ready.keeps_store (h : s.Ready v) (name : String) (bytes : Bytes) :
  v.Keeps (v.store (s.path name) bytes)
  := ⟨.store bytes (s.path_ne_nil name) (h.isDirectory_path name), rfl⟩

/-- Whether the operating system takes a name in the directory of a store. -/
def Takes (s : Store) (name : String) : Prop :=
  acceptsName name ∧ s.canSpell name

/-- A file that may be there opens, with what is in it. -/
theorem Ready.openFile (h : s.Ready v) (hplain : isPlainName name) (htakes : s.Takes name) :
  ∃ v', s.openFile name v = .ok (s.content name v, v') ∧ v.Keeps v'
    ∧ ∀ other, s.content other v' = s.content other v
  := by
  have hroom : v.tree.hasRoom (s.path name) := by
    rw [Tree.hasRoom, path, List.dropLast_concat, h.isDirectory, List.all_append, h.accepted,
      List.all_cons, htakes.1]
    rfl
  rw [Store.openFile, hplain, htakes.2]
  simp only [Bool.not_true, Bool.false_eq_true, if_false, if_true, Tree.openFile]
  cases hnode : v.tree.node? (s.path name) with
  | none =>
    have hcontent : s.content name v = [] := by
      rw [content, Tree.file?, hnode]
      rfl
    refine ⟨v.store (s.path name) [], ?_, h.keeps_store name [], ?_⟩
    · rw [hcontent]
      simp only [hroom, if_true]
      rfl
    · intro other
      rw [content_store]
      split
      · next heq => rw [heq, hcontent]
      · rfl
  | some node =>
    cases node with
    | directory =>
      have hdirectory := h.isDirectory_path name
      rw [Tree.isDirectory, hnode] at hdirectory
      cases hdirectory
    | file bytes =>
      have hcontent : s.content name v = bytes := by
        rw [content, Tree.file?, hnode]
        rfl
      refine ⟨v, ?_, .refl v, fun other => rfl⟩
      rw [hcontent]
      rfl

/-- Whether a name opens a file. -/
def Opens (s : Store) (name : String) (v : Volume) : Prop :=
  ∃ r, s.openFile name v = .ok r

/-- A name that opens a file is a plain one, and it opens the file at its path. -/
theorem openFile_eq_ok_iff {r : Bytes × Volume} :
  s.openFile name v = .ok r ↔ isPlainName name ∧ s.canSpell name
    ∧ ∃ t, v.tree.openFile (s.path name) = .ok (r.1, t) ∧ r.2 = { v with tree := t }
  := by
  rw [openFile]
  cases isPlainName name with
  | false => simp
  | true =>
    cases s.canSpell name with
    | false => simp
    | true =>
      cases v.tree.openFile (s.path name) with
      | error cause => simp [Except.map]
      | ok found =>
        obtain ⟨bytes, w⟩ := r
        constructor
        · rintro ⟨⟩
          exact ⟨rfl, rfl, found.2, rfl, rfl⟩
        · rintro ⟨-, -, t, hfound, rfl⟩
          cases hfound
          rfl

/-- A file that opens is the one at its path, and nothing else is touched. -/
theorem openFile_outcome {file : Bytes} (h : s.openFile name v = .ok (file, v')) :
  v.tree.Rewrites (s.path name) v'.tree ∧ v'.limit = v.limit
    ∧ v'.tree.isDirectory (s.path name) = false ∧ file = s.content name v ∧ s.content name v' = file
  := by
  obtain ⟨-, -, t, hopen, rfl⟩ := openFile_eq_ok_iff.mp h
  obtain ⟨hrewrites, hdirectory, hbefore, hafter⟩ :=
    Tree.rewrites_of_openFile (s.path_ne_nil name) hopen
  refine ⟨hrewrites, rfl, hdirectory, hbefore.symm, ?_⟩
  rw [content, hafter]
  rfl

/-- A name that no file may have opens none. -/
theorem openFile_of_not_plain (s : Store) (v : Volume) (h : isPlainName name = false) :
  s.openFile name v = .error (.badFileName name)
  := by
  rw [openFile, h]
  rfl

/-! ### Opening the directory -/

/-- The text that a store is created by leads to its directory. -/
theorem follow?_of_create {v₀ : Volume} (h : create text v₀ = (.ok (isNew, s), v)) :
  ∃ r, Route.ofText? text = some r ∧ v.tree.follow? r = some s.directory
    ∧ s.bytesBeforeName = Route.bytesBeforeName text
  := by
  rw [create] at h
  cases hroute : Route.ofText? text with
  | none =>
    rw [hroute] at h
    cases h
  | some r =>
    refine ⟨r, rfl, ?_⟩
    rw [hroute] at h
    cases hfollow : v₀.tree.follow? r with
    | some path =>
      simp only [hfollow] at h
      cases h
      exact ⟨hfollow, rfl⟩
    | none =>
      simp only [hfollow, Tree.makeDirectories] at h
      split at h
      · next hfollow' =>
        cases h
        exact ⟨hfollow', rfl⟩
      · cases h

/-- A store that was created is there to be opened again. -/
theorem create_of_keeps {v₀ : Volume} (h : create text v₀ = (.ok (isNew, s), v))
    (hkeeps : v.tree.Keeps v'.tree) :
  create text v' = (.ok (false, s), v')
  := by
  obtain ⟨r, hroute, hfollow, hbytes⟩ := follow?_of_create h
  rw [create, hroute]
  simp only [hkeeps.follow? hfollow, ← hbytes]

/-- A store whose directory is empty. -/
def OnEmpty (s : Store) (v : Volume) : Prop :=
  v.tree.isDirectory s.directory ∧ ∀ name, v.tree.node? (s.path name) = none

theorem OnEmpty.ready {v₀ : Volume} (h : s.OnEmpty v) (hopen : create text v₀ = (.ok (isNew, s), v)) :
  s.Ready v
  := by
  obtain ⟨r, -, hfollow, -⟩ := follow?_of_create hopen
  refine ⟨h.1, Tree.all_acceptsName_of_follow? hfollow, ?_⟩
  intro name
  rw [Tree.isDirectory, h.2]

theorem OnEmpty.content (h : s.OnEmpty v) (name : String) :
  s.content name v = []
  := by
  rw [Store.content, Tree.file?, h.2]
  rfl

end Store

end StorageEngine.Disk
