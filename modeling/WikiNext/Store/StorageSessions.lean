import WikiNext.Store.StorageSharing
import WikiNext.Store.StorageSteps

/-!
# Storage sessions side by side

Each function of the storage call by call, with the calls of other processes in
between, and the sessions of all processes together.

§1 the way to the root, §2 creation, §3 checks and probe, §4 a session, §5 all
sessions.
-/

namespace WikiNext.Store

open WikiNext.Foundation WikiNext.Core

variable {ι : Type} {machine : ι → Machine Uuid} {umask : ι → Mode} {names : List Name}
  {fs₀ fs : FileSystem} {i : ι} {made : List (List Name)} {w : World}

/-! ## §1  The way to the root -/

theorem Interrupted.not_clean {machine : Machine Uuid} {e : StorageError}
    (h : Interrupted machine w e) : ¬ Clean machine names fs₀ :=
  fun hclean => h.1 (hclean.calm.mono (Nat.zero_le _))

/-- The error is about a call, and a process without bad luck has none. -/
def Spoiled (machine : ι → Machine Uuid) (names : List Name) (fs₀ : FileSystem) (i : ι)
    (made : List (List Name)) (error : StorageError) (w : World) : Prop :=
  Working machine names fs₀ i made none w ∧ error.source ≠ none ∧
    ¬ Clean (machine i) names fs₀

theorem under_absoluteStoragePath {requested : PathBuf}
    (h : Working machine names fs₀ i made none w) (hshape : ValidShape requested)
    (hnames : storageNames (machine i) requested = names) :
    Under (storageTerms machine names fs₀ i) (.call (absoluteStoragePath (machine i) requested))
      (fun root t => root.At names ∧ Working machine names fs₀ i made none t)
      (Spoiled machine names fs₀ i made) w := by
  apply under_moves
  apply (wp_absoluteStoragePath requested).mono
  · rintro root w' ⟨hunmoved, -, hroot⟩
    exact h.looks hunmoved.fs fun t ht => ⟨hnames ▸ hroot, ht⟩
  · rintro e w' ⟨hunmoved, hcut | ⟨hbad, -⟩⟩
    · exact h.looks hunmoved.fs fun t ht => ⟨ht, hcut.2, hcut.not_clean⟩
    · exact absurd hshape hbad

/-- One component of the walk that is there. -/
theorem validateMetadata_isDir {p : List Name} {path : PathBuf} {node : Node}
    (hnode : fs.node p = some node) (hdir : fs.IsDir p) :
    validateMetadata path node.metadata = .ok () := by
  obtain ⟨mode, hmode⟩ := hdir
  obtain rfl : node = .dir mode := Option.some.inj (hnode.symm.trans hmode)
  exact validateMetadata_node path (.dir mode)

theorem under_inspectFrom (hnames : RootNames names) {back : List Name} :
    ∀ {front : List Name} {current : PathBuf} {w : World}, front ++ back = names →
      current.At front → Working machine names fs₀ i made none w →
      Under (storageTerms machine names fs₀ i)
        (Stepwise.inspectFrom (machine i) current (back.map .normal))
        (fun _ => Working machine names fs₀ i made none) (Spoiled machine names fs₀ i made) w := by
  induction back with
  | nil => exact fun _ _ h => under_pure h
  | cons name back ih =>
      intro front current w hsplit hat h
      have hpath : front ++ [name] <+: names := ⟨back, by simpa using hsplit⟩
      have hplain : PlainName name := hnames.plain name (hpath.subset (by simp))
      have hpush : (current.push name).At (front ++ [name]) := hat.push hplain
      rw [List.map_cons, Stepwise.inspectFrom]
      apply under_bind
      apply under_moves
      rw [wp_attempt]
      apply Machine.wp_symlinkMetadata hpush
        (h.standing.ready.clear.above ((List.prefix_append _ _).trans hpath))
      · intro node hnode
        have hdir : w.fs.IsDir (front ++ [name]) :=
          h.standing.ready.clear _ hpath (by simp [hnode])
        refine h.looks rfl fun t ht => under_bind ?_
        exact under_ofExcept (validateMetadata_isDir hnode hdir)
          (ih (by simpa using hsplit) hpush ht)
      · -- the first missing component ends the walk, also if it appears by now
        intro _
        exact h.looks rfl fun t ht => under_pure ht
      · intro r hr
        exact h.looks rfl fun t ht =>
          under_throw ⟨ht, by simp [StorageError.source], fun hclean => hclean.not_refused hr⟩

theorem under_inspectExistingAncestors (hnames : RootNames names) {path : PathBuf}
    (hat : path.At names) (h : Working machine names fs₀ i made none w) :
    Under (storageTerms machine names fs₀ i)
      (Stepwise.inspectExistingAncestors (machine i) path)
      (fun _ => Working machine names fs₀ i made none) (Spoiled machine names fs₀ i made) w := by
  rw [Stepwise.inspectExistingAncestors, hat, Stepwise.inspectFrom]
  have hroot : PathBuf.At ((PathBuf.mk []).push ['/']) [] := at_root
  apply under_bind
  apply under_moves
  rw [wp_attempt]
  apply Machine.wp_symlinkMetadata_root hroot
  · intro mode hmode
    refine h.looks rfl fun t ht => under_bind ?_
    exact under_ofExcept (validateMetadata_isDir hmode ⟨mode, hmode⟩)
      (under_inspectFrom hnames (List.nil_append names) hroot ht)
  · intro r hr
    exact h.looks rfl fun t ht =>
      under_throw ⟨ht, by simp [StorageError.source], fun hclean => hclean.not_refused hr⟩

/-! ## §2  Creation -/

/-- Losing the race for a directory is no error. -/
theorem under_keepDirectory (hnames : RootNames names) {front : List Name} {name : Name}
    (h : Working machine names fs₀ i ((front ++ [name]) :: made) none w) :
    Under (storageTerms machine names fs₀ i)
      (.call ((machine i).keepDirectory (realPath (front ++ [name])) .alreadyExists))
      (fun _ => Working machine names fs₀ i ((front ++ [name]) :: made) none)
      (fun _ t => Working machine names fs₀ i made none t ∧ ¬ Clean (machine i) names fs₀) w := by
  obtain ⟨hp, hdir⟩ := h.dirs _ (List.mem_cons_self ..)
  apply under_moves
  apply Machine.wp_keepDirectory (at_ofComponents (hp.plain hnames)) hdir
  · exact h.looks rfl fun t ht => ht
  · intro r hr
    exact h.looks rfl fun t ht => ⟨ht.forget (List.subset_cons_self _ _),
      fun hclean => hclean.not_refused hr⟩

theorem under_keepDirectory_refused {path : PathBuf} {r : Refusal}
    (h : Working machine names fs₀ i made none w) (hclean : ¬ Clean (machine i) names fs₀)
    {Q : Unit → World → Prop} :
    Under (storageTerms machine names fs₀ i) (.call ((machine i).keepDirectory path (.refused r))) Q
      (fun _ t => Working machine names fs₀ i made none t ∧ ¬ Clean (machine i) names fs₀) w := by
  apply under_moves
  simp only [Machine.keepDirectory, reduceCtorEq, if_false, wp_throw]
  exact h.looks rfl fun t ht => ⟨ht, hclean⟩

section Creation

variable (hnames : RootNames names) (hlinux : Linux (machine i) (umask i))
  (humask : KeepsOwner (umask i))

include hnames hlinux humask

/-- `mkdir` next to others: the directory is there afterwards, whoever made it. -/
theorem under_mkdir {front : List Name} {name : Name} (hp : BootstrapNames names (front ++ [name]))
    (h : Working machine names fs₀ i made none w) {Q : Except IoError Unit → World → Prop}
    {E : IoError → World → Prop}
    (hthere : ∀ r t, r = .ok () ∨ r = .error .alreadyExists →
      Working machine names fs₀ i ((front ++ [name]) :: made) none t → Q r t)
    (hmissing : ∀ t, front ∉ made → Working machine names fs₀ i made none t →
      Q (.error .notFound) t)
    (hrefused : ∀ r t, ¬ Clean (machine i) names fs₀ → Working machine names fs₀ i made none t →
      Q (.error (.refused r)) t) :
    Under (storageTerms machine names fs₀ i)
      (.call (attempt ((machine i).mkdir 0o700 (realPath (front ++ [name]))))) Q E w := by
  have hat : (realPath (front ++ [name])).At (front ++ [name]) :=
    at_ofComponents (hp.plain hnames)
  have hturned : ∀ syscall r, (machine i).refuses w.calls syscall = some r →
      Moves machine names fs₀ i w (Q (.error (.refused r))) w.tick := fun _ r hr =>
    h.looks rfl fun t ht => hrefused r t (fun hclean => hclean.not_refused hr) ht
  apply under_moves
  rw [wp_attempt]
  by_cases hfree : w.fs.node (front ++ [name]) = none
  · apply Machine.wp_mkdir hat (h.standing.ready.clear.above hp.parent) hfree
    · intro hdir
      exact h.makes hlinux humask hdir hfree hp fun t ht => hthere _ t (Or.inl rfl) ht
    · intro hnot
      exact h.looks rfl fun t ht => hmissing t (fun hmem => hnot (h.dirs front hmem).2) ht
    · exact hturned _
  · apply Machine.wp_mkdir_taken hat hfree
    · exact (h.found hp hfree).looks rfl fun t ht => hthere _ t (Or.inr rfl) ht
    · exact hturned _

/-- **Recursive creation next to others.** -/
theorem under_createDirAll {p : List Name} (hp : BootstrapNames names p)
    (h : Working machine names fs₀ i made none w) :
    Under (storageTerms machine names fs₀ i)
      (Stepwise.createDirAll (machine i) 0o700 (Component.rootDir :: p.map .normal).reverse)
      (fun _ => Working machine names fs₀ i (p :: made) none)
      (fun _ t => Working machine names fs₀ i made none t ∧ ¬ Clean (machine i) names fs₀) w := by
  -- from the end of the path, as the recursion goes
  induction p using List.reverseRecOn generalizing w with
  | nil =>
      have hroot : w.fs.node [] ≠ none := FileSystem.IsDir.ne_none w.fs.root_dir
      exact under_pure (h.found hp hroot)
  | append_singleton front name ih =>
      have hat : (realPath (front ++ [name])).At (front ++ [name]) :=
        at_ofComponents (hp.plain hnames)
      obtain ⟨parent, hparent, -⟩ := hat.parent
      have hrev : (Component.rootDir :: (front ++ [name]).map .normal).reverse =
          .normal name :: (Component.rootDir :: front.map .normal).reverse := by simp
      have hself : PathBuf.ofComponents
          (.normal name :: (Component.rootDir :: front.map .normal).reverse).reverse =
          realPath (front ++ [name]) := by
        rw [realPath, ← hrev, List.reverse_reverse]
      rw [hrev, Stepwise.createDirAll, hself]
      simp only [hparent, reduceCtorEq, if_false]
      apply under_bind
      apply under_mkdir hnames hlinux humask hp h
      · rintro r t (rfl | rfl) ht
        · exact under_pure ht
        · exact under_keepDirectory hnames ht
      · -- the parent is missing: it is there once the recursion is through, whoever made it
        intro t _ ht
        have hparents := ih (Or.inl hp.parent) ht
        have hless : made ⊆ front :: made := List.subset_cons_self _ _
        apply under_bind
        apply hparents.mono
        swap
        · exact fun _ _ hfail => hfail
        intro _ t ht
        apply under_bind
        apply under_mkdir hnames hlinux humask hp ht
        · rintro r t (rfl | rfl) ht
          · exact under_pure (ht.forget (List.cons_subset_cons _ hless))
          · exact (under_keepDirectory hnames ht).mono
              (fun _ _ ht => ht.forget (List.cons_subset_cons _ hless))
              (fun _ _ ht => ⟨ht.1.forget hless, ht.2⟩)
        · intro t hnot
          exact absurd (List.mem_cons_self ..) hnot
        · intro r t hclean ht
          exact under_keepDirectory_refused (ht.forget hless) hclean
      · intro r t hclean ht
        exact under_keepDirectory_refused ht hclean

end Creation

/-- The directories that a bootstrap checks. -/
def StorageDirectory (names p : List Name) : Prop :=
  p = names ∨ p = names ++ [blobsName] ∨ p = names ++ [tmpName]

theorem StorageDirectory.bootstrapNames {p : List Name} (h : StorageDirectory names p) :
    BootstrapNames names p := by
  rcases h with rfl | h
  · exact Or.inl (List.prefix_refl _)
  · exact Or.inr h

theorem StorageDirectory.split {p : List Name} (h : StorageDirectory names p)
    (hnames : RootNames names) : ∃ front name, p = front ++ [name] := by
  have hne : p ≠ [] := by
    rcases h with rfl | rfl | rfl
    · exact hnames.nonempty
    · simp
    · simp
  exact ⟨_, _, (List.dropLast_append_getLast hne).symm⟩

theorem Working.node_private {probe : Option Uuid}
    (h : Working machine names fs₀ i made probe w) {p : List Name}
    (hp : StorageDirectory names p) (hmem : p ∈ made) : w.fs.node p = some (.dir 0o700) :=
  (h.standing.ready.acceptable p hp).resolve_left (h.dirs p hmem).2.ne_none

theorem under_inspectPrivateDirectory (hnames : RootNames names) {p : List Name} {path : PathBuf}
    (hp : StorageDirectory names p) (hat : path.At p) (hmem : p ∈ made)
    (h : Working machine names fs₀ i made none w) :
    Under (storageTerms machine names fs₀ i) (.call (inspectPrivateDirectory (machine i) path))
      (fun _ => Working machine names fs₀ i made none) (Spoiled machine names fs₀ i made) w := by
  have hprivate := h.node_private hp hmem
  apply under_moves
  apply (wp_inspectPrivateDirectory path).mono
  · rintro - w' ⟨hunmoved, -⟩
    exact h.looks hunmoved.fs fun t ht => ht
  · rintro e w' ⟨hunmoved, hcut | hdefect⟩
    · exact h.looks hunmoved.fs fun t ht => ⟨ht, hcut.2, hcut.not_clean⟩
    · obtain ⟨front, name, rfl⟩ := hp.split hnames
      rw [FileSystem.nodeAt_of_unobstructed hat
        (h.standing.ready.clear.above hp.bootstrapNames.parent), FileSystem.found, hprivate]
        at hdefect
      exact hdefect.ne_private.elim

/-- `ensure_directory` next to others. -/
theorem under_ensureDirectory (hnames : RootNames names) (hlinux : Linux (machine i) (umask i))
    (humask : KeepsOwner (umask i)) {p : List Name} {path : PathBuf}
    (hp : StorageDirectory names p) (hat : path.At p)
    (h : Working machine names fs₀ i made none w) :
    Under (storageTerms machine names fs₀ i) (Stepwise.ensureDirectory (machine i) path)
      (fun _ => Working machine names fs₀ i (p :: made) none)
      (Spoiled machine names fs₀ i made) w := by
  obtain ⟨front, name, rfl⟩ := hp.split hnames
  rw [Stepwise.ensureDirectory]
  apply under_bind
  apply under_moves
  rw [wp_attempt]
  apply Machine.wp_symlinkMetadata hat
    (h.standing.ready.clear.above hp.bootstrapNames.parent)
  · -- it is there, whoever made it, and then it is private
    intro node hnode
    have hthere : w.fs.node (front ++ [name]) ≠ none := by simp [hnode]
    obtain rfl : node = .dir 0o700 := Option.some.inj
      (hnode.symm.trans ((h.standing.ready.acceptable _ hp).resolve_left hthere))
    refine (h.found hp.bootstrapNames hthere).looks rfl fun t ht => under_bind ?_
    have hpermissions : validateDirectoryPermissions path (Node.dir 0o700).metadata = .ok () := by
      rw [validateDirectoryPermissions_dir, if_neg (not_not.mpr rfl)]
    exact under_ofExcept (validateMetadata_node path (.dir 0o700)) (under_ofExcept hpermissions ht)
  · intro _
    refine h.looks rfl fun t ht => under_bind (under_mapErr ?_)
    rw [hat]
    apply (under_createDirAll hnames hlinux humask hp.bootstrapNames ht).mono
    · intro _ t ht
      apply (under_inspectPrivateDirectory hnames hp hat (List.mem_cons_self ..) ht).mono
      · exact fun _ _ ht => ht
      · rintro e t ⟨ht, hsource, hclean⟩
        exact ⟨ht.forget (List.subset_cons_self _ _), hsource, hclean⟩
    · rintro e t ⟨ht, hclean⟩
      exact ⟨ht, by simp [StorageError.source], hclean⟩
  · intro r hr
    exact h.looks rfl fun t ht =>
      under_throw ⟨ht, by simp [StorageError.source], fun hclean => hclean.not_refused hr⟩

/-! ## §3  The write probe -/

theorem wp_removeProbe {uuid : Uuid} {directory : PathBuf}
    (hat : directory.At (names ++ [tmpName])) (htmp : names ++ [tmpName] ∈ made)
    (h : Working machine names fs₀ i made (some uuid) w)
    {Q : Unit → World → Prop} {E : IoError → World → Prop}
    (hgone : ∀ t, Working machine names fs₀ i made none t → Q () t)
    (hleft : ∀ r t, ¬ Clean (machine i) names fs₀ → Working machine names fs₀ i made none t →
      E (.refused r) t) :
    Wp ((machine i).removeFile (directory.join (probeName uuid)))
      (fun a => Moves machine names fs₀ i w (Q a))
      (fun e => Moves machine names fs₀ i w (E e)) w := by
  obtain ⟨-, -, mode, hmode⟩ := h.mine uuid rfl
  have hthere : w.fs.node (probeNames names uuid) ≠ none := by simp [hmode]
  have hfile : ¬ w.fs.IsDir (probeNames names uuid) := by
    rw [FileSystem.isDir_iff hmode]
    exact Bool.false_ne_true
  apply Machine.wp_removeFile (hat.push (plainName_probeName uuid)) (h.dirs _ htmp).2 hthere hfile
  · exact h.takes hfile hgone
  · intro r hr
    have hclean : ¬ Clean (machine i) names fs₀ := fun hclean => hclean.not_refused hr
    exact h.looks rfl fun t ht => hleft r t hclean (ht.abandon hclean)

/-- `probe_writable` next to others. -/
theorem under_probeWritable {directory : PathBuf}
    (hat : directory.At (names ++ [tmpName])) (htmp : names ++ [tmpName] ∈ made)
    (h : Working machine names fs₀ i made none w) :
    Under (storageTerms machine names fs₀ i) (Stepwise.probeWritable (machine i) directory)
      (fun _ => Working machine names fs₀ i made none) (Spoiled machine names fs₀ i made) w := by
  have hspoiled : ∀ source t, ¬ Clean (machine i) names fs₀ →
      Working machine names fs₀ i made none t →
      Spoiled machine names fs₀ i made (.notWritable directory source) t :=
    fun source t hclean ht => ⟨ht, by simp [StorageError.source], hclean⟩
  rw [Stepwise.probeWritable]
  apply under_bind
  apply under_moves
  rw [Machine.wp_draw]
  generalize w.drawn = n
  refine h.looks rfl fun t ht => under_bind (under_moves ?_)
  rw [wp_mapErr]
  apply Machine.wp_createNew (hat.push (plainName_probeName _)) (ht.dirs _ htmp).2
  · intro hfree
    refine ht.puts _ hfree fun t ht => under_bind (under_moves ?_)
    rw [wp_attempt]
    apply Machine.wp_syncAll
    · refine ht.looks rfl fun t ht => under_moves ?_
      rw [wp_mapErr]
      exact wp_removeProbe hat htmp ht (fun _ ht => ht) fun r => hspoiled _
    · -- the flush is turned down; the probe is removed all the same, if that call gets through
      intro r hr
      have hclean : ¬ Clean (machine i) names fs₀ := fun hclean => hclean.not_refused hr
      refine ht.looks rfl fun t ht => under_bind (under_moves ?_)
      rw [wp_attempt]
      exact wp_removeProbe hat htmp ht (fun t ht => under_throw (hspoiled _ t hclean ht))
        fun _ t hclean ht => under_throw (hspoiled _ t hclean ht)
  · -- the name is taken: by something old, or by a probe that a refused call left
    intro htaken
    refine ht.looks rfl fun t' => hspoiled _ t' fun hclean => htaken ?_
    exact ht.others hclean n (Option.some_ne_none _).symm
  · intro r hr
    exact ht.looks rfl fun t' => hspoiled _ t' fun hclean => hclean.not_refused hr

/-! ## §4  A session -/

/-- The directories of a prepared storage. -/
def storageDirs (names : List Name) : List (List Name) :=
  [names ++ [tmpName], names ++ [blobsName], names]

theorem Working.privateTree (h : Working machine names fs₀ i (storageDirs names) none w) :
    PrivateTree w.fs names where
  root := h.node_private (Or.inl rfl) (by simp [storageDirs])
  blobs := h.node_private (Or.inr (Or.inl rfl)) (by simp [storageDirs])
  tmp := h.node_private (Or.inr (Or.inr rfl)) (by simp [storageDirs])

theorem Spoiled.forget {error : StorageError} {less : List (List Name)}
    (h : Spoiled machine names fs₀ i made error w) (hsub : less ⊆ made) :
    Spoiled machine names fs₀ i less error w :=
  ⟨h.1.forget hsub, h.2⟩

section Session

variable (hnames : RootNames names)

include hnames

theorem under_status (h : Working machine names fs₀ i (storageDirs names) none w) :
    Under (storageTerms machine names fs₀ i)
      (Stepwise.status (machine i) (preparedStorage names))
      (fun status t => status = { root := realPath names } ∧
        Working machine names fs₀ i (storageDirs names) none t)
      (Spoiled machine names fs₀ i (storageDirs names)) w := by
  have hroot : (realPath names).At names := at_ofComponents hnames.plain
  rw [Stepwise.status]
  apply Under.bind
    (under_inspectPrivateDirectory hnames (Or.inl rfl) hroot (by simp [storageDirs]) h)
  intro _ t ht
  apply Under.bind (under_inspectPrivateDirectory hnames (Or.inr (Or.inl rfl))
    (hroot.push plainName_blobs) (by simp [storageDirs]) ht)
  intro _ t ht
  apply Under.bind (under_inspectPrivateDirectory hnames (Or.inr (Or.inr rfl))
    (hroot.push plainName_tmp) (by simp [storageDirs]) ht)
  exact fun _ t ht => under_pure ⟨rfl, ht⟩

theorem under_diagnose (h : Working machine names fs₀ i (storageDirs names) none w) :
    Under (storageTerms machine names fs₀ i)
      (Stepwise.diagnose (machine i) (preparedStorage names))
      (fun status t => status = { root := realPath names } ∧
        Working machine names fs₀ i (storageDirs names) none t)
      (Spoiled machine names fs₀ i (storageDirs names)) w := by
  have hroot : (realPath names).At names := at_ofComponents hnames.plain
  rw [Stepwise.diagnose]
  apply Under.bind (under_status hnames h)
  rintro status t ⟨rfl, ht⟩
  apply Under.bind (under_probeWritable (hroot.push plainName_tmp) (by simp [storageDirs]) ht)
  exact fun _ t ht => under_pure ⟨rfl, ht⟩

/-- A report is what a calm process reports, or is about a call. -/
def Reported (machine : Machine Uuid) (names : List Name) (fs₀ : FileSystem)
    (report : Except StorageError StorageStatus) : Prop :=
  report = .ok { root := realPath names } ∨
    ∃ error, report = .error error ∧ error.source ≠ none ∧ ¬ Clean machine names fs₀

theorem under_reports (checks : List Stepwise.Check)
    (h : Working machine names fs₀ i (storageDirs names) none w) :
    Under (storageTerms machine names fs₀ i)
      (Stepwise.reports (machine i) (preparedStorage names) checks)
      (fun reports t => (reports.length = checks.length ∧
          ∀ report ∈ reports, Reported (machine i) names fs₀ report) ∧
        Working machine names fs₀ i (storageDirs names) none t)
      (fun _ _ => False) w := by
  induction checks generalizing w with
  | nil => exact under_pure ⟨⟨rfl, nofun⟩, h⟩
  | cons check checks ih =>
      rw [Stepwise.reports]
      apply under_bind
      have hcheck : Under (storageTerms machine names fs₀ i)
          (Stepwise.check (machine i) (preparedStorage names) check)
          (fun status t => status = { root := realPath names } ∧
            Working machine names fs₀ i (storageDirs names) none t)
          (Spoiled machine names fs₀ i (storageDirs names)) w := by
        cases check with
        | status => exact under_status hnames h
        | diagnose => exact under_diagnose hnames h
      -- what the check reported comes before what the later ones do
      have hlater : ∀ report t, Reported (machine i) names fs₀ report →
          Working machine names fs₀ i (storageDirs names) none t →
          Under (storageTerms machine names fs₀ i)
            (do
              let later ← Stepwise.reports (machine i) (preparedStorage names) checks
              pure (report :: later))
            (fun reports t => (reports.length = (check :: checks).length ∧
                ∀ report ∈ reports, Reported (machine i) names fs₀ report) ∧
              Working machine names fs₀ i (storageDirs names) none t)
            (fun _ _ => False) t := by
        intro report t hreport ht
        apply Under.bind (ih ht)
        rintro later t ⟨⟨hlength, hall⟩, ht⟩
        exact under_pure ⟨⟨by simp [hlength], List.forall_mem_cons.mpr ⟨hreport, hall⟩⟩, ht⟩
      apply under_attempt
      apply hcheck.mono
      · rintro status t ⟨rfl, ht⟩
        exact hlater _ t (Or.inl rfl) ht
      · rintro e t ⟨ht, hsource, hclean⟩
        exact hlater _ t (Or.inr ⟨e, rfl, hsource, hclean⟩) ht

variable (hlinux : Linux (machine i) (umask i)) (humask : KeepsOwner (umask i))

include hlinux humask

theorem under_prepareBelow (h : Working machine names fs₀ i [names] none w) :
    Under (storageTerms machine names fs₀ i)
      (Stepwise.prepareBelow (machine i) (realPath names))
      (fun storage t => storage = preparedStorage names ∧
        Working machine names fs₀ i (storageDirs names) none t)
      (Spoiled machine names fs₀ i []) w := by
  have hroot : (realPath names).At names := at_ofComponents hnames.plain
  rw [Stepwise.prepareBelow]
  apply Under.bind ((under_ensureDirectory hnames hlinux humask (Or.inr (Or.inl rfl))
    (hroot.push plainName_blobs) h).mono (fun _ _ ht => ht)
    (fun _ _ hfail => hfail.forget (List.nil_subset _)))
  intro _ t ht
  apply Under.bind ((under_ensureDirectory hnames hlinux humask (Or.inr (Or.inr rfl))
    (hroot.push plainName_tmp) ht).mono (fun _ _ ht => ht)
    (fun _ _ hfail => hfail.forget (List.nil_subset _)))
  intro _ t ht
  apply Under.bind ((under_diagnose hnames ht).mono (fun _ _ ht => ht)
    (fun _ _ hfail => hfail.forget (List.nil_subset _)))
  exact fun _ t ht => under_pure ⟨rfl, ht.2⟩

/-- **`prepare` next to others.** -/
theorem under_prepare {requested : PathBuf} (hshape : ValidShape requested)
    (heq : storageNames (machine i) requested = names)
    (h : Working machine names fs₀ i [] none w) :
    Under (storageTerms machine names fs₀ i) (Stepwise.prepare (machine i) requested)
      (fun storage t => storage = preparedStorage names ∧
        Working machine names fs₀ i (storageDirs names) none t)
      (Spoiled machine names fs₀ i []) w := by
  rw [Stepwise.prepare]
  apply Under.bind (under_absoluteStoragePath h hshape heq)
  rintro root t ⟨hroot, ht⟩
  apply Under.bind (under_inspectExistingAncestors hnames hroot ht)
  intro _ t ht
  apply Under.bind (under_ensureDirectory hnames hlinux humask (Or.inl rfl) hroot ht)
  intro _ t ht
  apply under_bind
  apply under_moves
  rw [wp_mapErr]
  apply Machine.wp_canonicalize hroot (ht.dirs names (List.mem_cons_self ..)).2
  · have hcanonical : (realPath names).components = root.components := by
      rw [hroot]
      exact at_ofComponents hnames.plain
    refine ht.looks rfl fun t ht => ?_
    rw [if_neg (not_not.mpr hcanonical)]
    exact under_prepareBelow hnames hlinux humask ht
  · intro r hr
    exact ht.looks rfl fun t ht => ⟨ht.forget (List.nil_subset _), by simp [StorageError.source],
      fun hclean => hclean.not_refused hr⟩

theorem under_session {requested : PathBuf} (hshape : ValidShape requested)
    (heq : storageNames (machine i) requested = names) (checks : List Stepwise.Check)
    (h : Working machine names fs₀ i [] none w) :
    Under (storageTerms machine names fs₀ i) (Stepwise.session (machine i) requested checks)
      (fun reports t => (reports.length = checks.length ∧
          ∀ report ∈ reports, Reported (machine i) names fs₀ report) ∧
        Working machine names fs₀ i (storageDirs names) none t)
      (Spoiled machine names fs₀ i []) w := by
  rw [Stepwise.session]
  apply Under.bind (under_prepare hnames hlinux humask hshape heq h)
  rintro storage t ⟨rfl, ht⟩
  exact (under_reports hnames checks ht).mono (fun _ _ hdone => hdone)
    (fun _ _ hfalse => hfalse.elim)

end Session

/-! ## §5  All sessions -/

theorem rootNames_storageNames {machine : Machine Uuid} {requested : PathBuf}
    (hshape : ValidShape requested) : RootNames (storageNames machine requested) where
  plain name hname := by
    rcases List.mem_append.mp hname with hname | hname
    · split at hname
      · cases hname
      · exact machine.cwd.at_names.plainName hname
    · exact plainName_of_mem_components (mem_normalNames.mp hname)
  nonempty := by simp [storageNames, hshape.2.2]

/-- Where the session of process `i` may end. -/
def SessionEnds (machine : ι → Machine Uuid) (names : List Name) (fs₀ : FileSystem)
    (checks : ι → List Stepwise.Check) (i : ι) :
    Except StorageError (List (Except StorageError StorageStatus)) → World → Prop :=
  Ends (fun reports t => (reports.length = (checks i).length ∧
      ∀ report ∈ reports, Reported (machine i) names fs₀ report) ∧
    Working machine names fs₀ i (storageDirs names) none t)
    (Spoiled machine names fs₀ i [])

section Ended

variable {checks : ι → List Stepwise.Check}
  {result : Except StorageError (List (Except StorageError StorageStatus))}

/-- Errors are about calls, and a storage that was prepared is private. -/
theorem SessionEnds.honest (h : SessionEnds machine names fs₀ checks i result w) :
    (∀ error, result = .error error → error.source ≠ none) ∧
      ∀ reports, result = .ok reports →
        PrivateTree w.fs names ∧ ∀ error, .error error ∈ reports → error.source ≠ none := by
  refine ⟨?_, ?_⟩
  · rintro error rfl
    exact h.2.1
  · rintro reports rfl
    obtain ⟨⟨-, hreports⟩, hworking⟩ := h
    refine ⟨hworking.privateTree, fun error herror => ?_⟩
    rcases hreports _ herror with hok | ⟨e, heq, hsource, -⟩
    · cases hok
    · cases heq
      exact hsource

/-- Without bad luck everything succeeds. -/
theorem SessionEnds.clean (h : SessionEnds machine names fs₀ checks i result w)
    (hclean : Clean (machine i) names fs₀) :
    result = .ok (List.replicate (checks i).length (.ok { root := realPath names })) ∧
      ∀ n, w.fs.node (probeNames names ((machine i).random n)) = none := by
  cases result with
  | error e => exact absurd hclean h.2.2
  | ok reports =>
      obtain ⟨⟨hlength, hreports⟩, hworking⟩ := h
      refine ⟨congrArg _ (List.eq_replicate_iff.mpr ⟨hlength, fun report hmem => ?_⟩),
        fun n => hworking.others hclean n (Option.some_ne_none _).symm⟩
      exact (hreports report hmem).resolve_right fun ⟨_, _, _, hnot⟩ => hnot hclean

end Ended

/-- Processes with one storage: each its own machine, its own spelling of the path, and
its own checks. -/
def storageStart (machine : ι → Machine Uuid) (requested : ι → PathBuf)
    (checks : ι → List Stepwise.Check) (fs : FileSystem) :
    Joint ι FileSystem (Nat × Nat) World
      (Except StorageError (List (Except StorageError StorageStatus))) where
  shared := fs
  own _ := (0, 0)
  left i := (Stepwise.session (machine i) (requested i) (checks i)).run

variable [DecidableEq ι]

abbrev storageProcesses (machine : ι → Machine Uuid) (requested : ι → PathBuf)
    (checks : ι → List Stepwise.Check) (fs : FileSystem) :=
  Joint.system worldView (storageStart machine requested checks fs)

/-- A process that nobody comes in between of does what the sequential model says. -/
theorem session_undisturbed (machine : ι → Machine Uuid) (requested : ι → PathBuf)
    (checks : ι → List Stepwise.Check) (fs : FileSystem) (i : ι) :
    let sequential : EStateM StorageError World _ := do
      let storage ← LocalStorage.prepare (machine i) (requested i)
      (checks i).mapM fun asked => attempt (Stepwise.check (machine i) storage asked).alone
    ∃ n, (storageProcesses machine requested checks fs).Run (List.replicate n i) ∧
      let s := (storageProcesses machine requested checks fs).state (List.replicate n i)
      s.left i = .done (outcome sequential ⟨fs, 0, 0⟩).1 ∧
        s.shared = (outcome sequential ⟨fs, 0, 0⟩).2.fs := by
  intro sequential
  have halone : (Stepwise.session (machine i) (requested i) (checks i)).alone = sequential :=
    Stepwise.alone_session (machine i) (requested i) (checks i)
  obtain ⟨n, hpath, hdone, hseen⟩ := Joint.finishes worldView
    (storageStart machine requested checks fs) (storageStart machine requested checks fs) i
  rw [← halone, Steps.outcome_alone]
  exact ⟨n, hpath, hdone, congrArg World.fs hseen⟩

/-- **Processes may share a storage.** Take a tree that nothing stands in the way of a
bootstrap in, and any number of processes that prepare the same storage and check it,
in any interleaving of their calls, with any calls turned down and any process stopped
for good anywhere. Then every node that was there is there unchanged, and what is new
are directories of the storage and empty probes. Each process can be carried to its end
by its own calls. Its errors, of the bootstrap and of the checks, are about calls, never
about what another process did; once it has prepared the storage, root, `blobs` and
`tmp` are private; and if none of its own calls is turned down and its probe names were
unused, then it and each of its checks succeeds, and it leaves no probe behind. -/
theorem storage_is_shared (machine : ι → Machine Uuid) (umask : ι → Mode)
    (requested : ι → PathBuf) (checks : ι → List Stepwise.Check) (names : List Name)
    (fs : FileSystem) (hlinux : ∀ i, Linux (machine i) (umask i))
    (humask : ∀ i, KeepsOwner (umask i)) (hshape : ∀ i, ValidShape (requested i))
    (hnames : ∀ i, storageNames (machine i) (requested i) = names)
    (hdistinct : ∀ i j, i ≠ j → ∀ m n, (machine i).random m ≠ (machine j).random n)
    (hclear : fs.Unobstructed names) (hacceptable : Acceptable fs names)
    (hplain : NoInheritedSetgid fs names) (run : List ι)
    (hrun : (storageProcesses machine requested checks fs).Run run) :
    let s := (storageProcesses machine requested checks fs).state run
    (∀ p node, fs.node p = some node → s.shared.node p = some node) ∧
    (∀ p, fs.node p = none → s.shared.node p ≠ none →
      s.shared.IsDir p ∧ BootstrapNames names p ∨
        ∃ i n mode, p = probeNames names ((machine i).random n) ∧
          s.shared.node p = some (.file mode [])) ∧
    ∀ i,
      (∃ n result, (storageProcesses machine requested checks fs).Run
          (run ++ List.replicate n i) ∧
        ((storageProcesses machine requested checks fs).state
          (run ++ List.replicate n i)).left i = .done result) ∧
      ∀ result, s.left i = .done result →
        (∀ error, result = .error error → error.source ≠ none) ∧
        (∀ reports, result = .ok reports →
          PrivateTree s.shared names ∧ ∀ error, .error error ∈ reports → error.source ≠ none) ∧
        ((machine i).Calm 0 →
          (∀ n, fs.node (probeNames names ((machine i).random n)) = none) →
          result = .ok (List.replicate (checks i).length (.ok { root := realPath names })) ∧
            ∀ n, s.shared.node (probeNames names ((machine i).random n)) = none) := by
  have hagreement : Agreement worldView (storageTerms machine names fs) :=
    storage_agreement hdistinct
  have hstanding : Standing machine names fs fs :=
    ⟨⟨hclear, hacceptable, hplain⟩, fun _ _ h => h, fun _ hnone hthere => absurd hnone hthere⟩
  have hsafe : ∀ i t, (storageTerms machine names fs i).rely
      ((storageStart machine requested checks fs).seen worldView i) t →
      ((storageStart machine requested checks fs).left i).Safe (storageTerms machine names fs i)
        (SessionEnds machine names fs checks i) t := by
    intro i t ht
    have hroot : RootNames names := hnames i ▸ rootNames_storageNames (hshape i)
    have hworking : Working machine names fs i [] none ⟨fs, 0, 0⟩ :=
      ⟨hstanding, nofun, nofun, fun hclean n _ => hclean.unused n⟩
    exact under_session hroot (hlinux i) (humask i) (hshape i) (hnames i) (checks i)
      (hworking.relied ht)
  have hkept : Standing machine names fs
      ((storageProcesses machine requested checks fs).state run).shared :=
    hagreement.kept hsafe hstanding (fun i s s' hleaves => hleaves.standing) hrun
  refine ⟨hkept.kept, hkept.added, fun i => ⟨?_, ?_⟩⟩
  · obtain ⟨n, hpath, hdone, -⟩ := Joint.finishes worldView
      (storageStart machine requested checks fs)
      ((storageProcesses machine requested checks fs).state run) i
    have hlast := System.state_append (storageProcesses machine requested checks fs) run
      (List.replicate n i)
    exact ⟨n, _, System.run_append_iff.mpr ⟨hrun, hpath⟩, hlast ▸ hdone⟩
  · intro result hdone
    have hends := hagreement.finished hsafe hrun hdone
    obtain ⟨herror, hreports⟩ := hends.honest
    exact ⟨herror, hreports, fun hcalm hunused => hends.clean ⟨hcalm, hunused⟩⟩

/-- A server and a doctor on one machine. -/
def serverOrDoctor (doctor : Bool) : Machine Uuid :=
  { linuxMachine with random := fun _ => if doctor then 1 else 2 }

def serverOrDoctorChecks : Bool → List Stepwise.Check
  | false => [.diagnose]
  | true => [.status]

/-- Both are started at once and make their calls in turn. -/
def inTurns : List Bool := (List.replicate 25 [true, false]).flatten ++ [false, false]

theorem serverOrDoctor_distinct (i j : Bool) (hij : i ≠ j) (m n : Nat) :
    (serverOrDoctor i).random m ≠ (serverOrDoctor j).random n := by
  have hdraws : ∀ i j : Bool, i ≠ j → (if i then (1 : Uuid) else 2) ≠ if j then 1 else 2 := by
    decide
  exact hdraws i j hij

theorem inTurns_done : ∀ i, ((storageProcesses serverOrDoctor (fun _ => srvWiki)
    serverOrDoctorChecks (oneDirectory "srv".toList 0o755)).state inTurns).left i |>.result.isSome := by
  decide +kernel

theorem storage_is_shared_inTurns :
    let s := (storageProcesses serverOrDoctor (fun _ => srvWiki) serverOrDoctorChecks
      (oneDirectory "srv".toList 0o755)).state inTurns
    PrivateTree s.shared srvWikiNames ∧
      ∀ i, s.left i = .done (.ok [.ok { root := realPath srvWikiNames }]) := by
  obtain ⟨-, -, hsessions⟩ := storage_is_shared serverOrDoctor (fun _ => 0o022) (fun _ => srvWiki)
    serverOrDoctorChecks srvWikiNames (oneDirectory "srv".toList 0o755) (fun _ _ _ => rfl)
    (by decide) (by decide) (by decide) serverOrDoctor_distinct (unobstructed_oneDirectory 0o755)
    (acceptable_oneDirectory 0o755) noInheritedSetgid_oneDirectory inTurns (by decide +kernel)
  have hunused : ∀ i n, (oneDirectory "srv".toList 0o755).node
      (probeNames srvWikiNames ((serverOrDoctor i).random n)) = none :=
    fun _ _ => FileSystem.node_append_eq_none (FileSystem.node_append_eq_none rfl _) _
  have hdone := inTurns_done
  generalize (storageProcesses serverOrDoctor (fun _ => srvWiki) serverOrDoctorChecks
    (oneDirectory "srv".toList 0o755)).state inTurns = s at hsessions hdone
  have hall : ∀ i, s.left i = .done (.ok [.ok { root := realPath srvWikiNames }]) := by
    intro i
    cases hleft : s.left i with
    | step update next =>
        have := hdone i
        rw [hleft] at this
        cases this
    | done result =>
        obtain ⟨rfl, -⟩ := ((hsessions i).2 result hleft).2.2 (fun _ _ _ => rfl) (hunused i)
        cases i <;> rfl
  exact ⟨((hsessions true).2 _ (hall true)).2.1 _ rfl |>.1, hall⟩

end WikiNext.Store
