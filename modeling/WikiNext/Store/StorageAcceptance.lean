import WikiNext.Store.StorageBootstrap

/-!
# Which trees the storage bootstrap accepts on Linux

On Linux `mkdir` gives a new directory the set-group-ID bit of its parent, and
`ensure_directory` then compares the mode it finds with `0o700` exactly. So
below a parent with that bit `prepare` rejects the root it has just created,
although the documentation promises that created directories get `0700`.

§1 the mode rule of Linux, §2 how the bit travels, §3 the exact condition.
-/

namespace WikiNext.Store

open WikiNext.Foundation WikiNext.Core

variable {machine : Machine Uuid} {w w' : World} {requested : PathBuf} {names : List Name}

/-! ## §1  The mode rule of Linux -/

section Bits

variable {n : Nat} {a b mask : BitVec n}

theorem and_not_eq_self (h : b &&& a = 0#n) : a &&& ~~~b = a := by
  ext i hi
  have hbit : (b &&& a)[i] = false := by rw [h, BitVec.getElem_zero]
  rw [BitVec.getElem_and] at hbit
  rw [BitVec.getElem_and, BitVec.getElem_not]
  revert hbit
  cases a[i] <;> cases b[i] <;> simp

theorem or_and_cancel (h : a &&& b = 0#n) : (a ||| (mask &&& b)) &&& b = mask &&& b := by
  ext i hi
  have hbit : (a &&& b)[i] = false := by rw [h, BitVec.getElem_zero]
  rw [BitVec.getElem_and] at hbit
  simp only [BitVec.getElem_and, BitVec.getElem_or]
  revert hbit
  cases a[i] <;> cases b[i] <;> cases mask[i] <;> simp

end Bits

/-- `mkdir` under `umask`: the requested bits, and the set-group-ID bit of the parent. -/
def linuxMkdirMode (umask requested parent : Mode) : Mode :=
  (requested &&& ~~~umask) ||| (parent &&& 0o2000)

/-- An umask that keeps the owner bits. -/
def KeepsOwner (umask : Mode) : Prop := umask &&& 0o700 = 0

instance (umask : Mode) : Decidable (KeepsOwner umask) := inferInstanceAs (Decidable (_ = _))

/-- The set-group-ID bit. -/
def setgid (mode : Mode) : Mode := mode &&& 0o2000

theorem linuxMkdirMode_private {umask : Mode} (h : KeepsOwner umask) (parent : Mode) :
    linuxMkdirMode umask 0o700 parent = 0o700 ||| setgid parent := by
  have hkept : (0o700 : Mode) &&& ~~~umask = 0o700 := and_not_eq_self h
  rw [linuxMkdirMode, hkept, setgid]

theorem setgid_linuxMkdirMode {umask : Mode} (h : KeepsOwner umask) (parent : Mode) :
    setgid (linuxMkdirMode umask 0o700 parent) = setgid parent := by
  rw [linuxMkdirMode_private h]
  exact or_and_cancel (by decide)

/-- A machine whose `mkdir` follows Linux. -/
def Linux (machine : Machine Uuid) (umask : Mode) : Prop :=
  ∀ requested parent, machine.mkdirMode requested parent = linuxMkdirMode umask requested parent

/-! ## §2  How the bit travels -/

/-- Wherever `names` leave the tree, the directory they leave lacks the
set-group-ID bit. Nothing is asked of names that exist. -/
def NoInheritedSetgid (fs : FileSystem) (names : List Name) : Prop :=
  ∀ front name, front ++ [name] <+: names → fs.IsDir front → fs.node (front ++ [name]) = none →
    setgid (fs.modeAt front) = 0

/-- The directories created below an old one all have its set-group-ID bit. -/
theorem Bootstrapped.setgid_eq {umask : Mode} (hlinux : Linux machine umask)
    (humask : KeepsOwner umask) {fs fs' : FileSystem} (h : Bootstrapped machine names fs fs')
    {front back : List Name} {name : Name} (hdir : fs.IsDir front)
    (hnone : fs.node (front ++ [name]) = none) (hthere : fs'.IsDir (front ++ name :: back)) :
    setgid (fs'.modeAt (front ++ name :: back)) = setgid (fs.modeAt front) := by
  have hf : ∀ mode, setgid (machine.mkdirMode 0o700 mode) = setgid mode := by
    intro mode
    rw [hlinux, setgid_linuxMkdirMode humask]
  apply h.inherited hf hdir _ hthere
  rintro p ⟨rest, hp⟩ hne
  obtain ⟨first, p, rfl⟩ := List.exists_cons_of_ne_nil hne
  obtain rfl : first = name := (List.cons.inj hp).1
  have := FileSystem.node_append_eq_none hnone p
  simpa using this

/-- A new directory is private exactly if it inherits no set-group-ID bit. -/
theorem Bootstrapped.mode_added {umask : Mode} (hlinux : Linux machine umask)
    (humask : KeepsOwner umask) {fs fs' : FileSystem} (h : Bootstrapped machine names fs fs')
    {p : List Name} (hnone : fs.node p = none) (hthere : fs'.IsDir p) :
    fs'.modeAt p = 0o700 ||| setgid (fs'.modeAt p) := by
  obtain ⟨-, front, name, rfl, -, hmode⟩ := h.added _ hnone hthere.ne_none
  rw [FileSystem.modeAt_eq hmode, hlinux, setgid_linuxMkdirMode humask,
    linuxMkdirMode_private humask]

/-! ## §3  The exact condition -/

/-- **Acceptance on Linux.** For an accepted path shape, an unobstructed way,
acceptable directories and no refused call, `prepare` returns `Ok` if and only
if a new root inherits no set-group-ID bit and the probe name is unused. -/
theorem prepare_accepts_iff (machine : Machine Uuid) (umask : Mode) (w : World)
    (requested : PathBuf) (hlinux : Linux machine umask) (humask : KeepsOwner umask)
    (hcalm : machine.Calm w.calls) (hshape : ValidShape requested)
    (hclear : w.fs.Unobstructed (storageNames machine requested))
    (hold : Acceptable w.fs (storageNames machine requested)) :
    (∃ storage w', LocalStorage.prepare machine requested w = .ok storage w') ↔
      NoInheritedSetgid w.fs (storageNames machine requested) ∧
        ProbeFree machine w (storageNames machine requested) := by
  constructor
  · rintro ⟨storage, w', hok⟩
    obtain ⟨-, -, -, -, -, hgrown, -, htree, hfree⟩ := (wp_prepare requested).of_ok hok
    refine ⟨?_, hfree⟩
    -- the bit would have come down to the root, whose mode is exact
    intro front name hfront hdir hnone
    obtain ⟨back, hback⟩ := hfront
    have hnames : front ++ name :: back = storageNames machine requested := by simpa using hback
    have hthere : w'.fs.IsDir (front ++ name :: back) := hnames ▸ htree.isDir
    have hbit := hgrown.setgid_eq hlinux humask hdir hnone hthere
    rw [← hbit, hnames, FileSystem.modeAt_eq htree.root]
    decide
  · rintro ⟨hplain, hfree⟩
    have hchild : machine.mkdirMode 0o700 0o700 = 0o700 := by
      rw [hlinux, linuxMkdirMode_private humask]
      decide
    have hroot : ∀ fs', Bootstrapped machine (storageNames machine requested) w.fs fs' →
        w.fs.node (storageNames machine requested) = none →
          fs'.IsDir (storageNames machine requested) →
            fs'.modeAt (storageNames machine requested) = 0o700 := by
      intro fs' hgrown hnone hthere
      have hmode := hgrown.mode_added hlinux humask hnone hthere
      rcases hclear.isDir_or_leaves with hdir | ⟨front, name, back, hnames, hdir, hleaves⟩
      · exact absurd hnone hdir.ne_none
      · -- where the root path leaves the tree, there is no bit to inherit
        have hzero := hplain front name ⟨back, by simp [hnames]⟩ hdir hleaves
        have hbit := hgrown.setgid_eq hlinux humask hdir hleaves (hnames ▸ hthere)
        rw [← hnames, hzero] at hbit
        rw [hmode, hbit]
        decide
    obtain ⟨w', hok, -⟩ := prepare_returns machine w requested hcalm hshape hclear hfree
      (fun fs' p error hgrown => hgrown.not_wrongDirectory hold (hroot fs' hgrown) hchild)
    exact ⟨_, w', hok⟩

/-! ## §4  A shared parent -/

/-- A directory of the given mode under `/`, and nothing else. -/
def oneDirectory (name : Name) (mode : Mode) : FileSystem where
  node names :=
    if names = [] then some (.dir 0o755) else if names = [name] then some (.dir mode) else none
  root_dir := ⟨0o755, rfl⟩
  parent_dir := by
    intro front last h
    have hnil : front = [] := by
      by_contra hne
      have hlen : front ++ [last] ≠ [name] := by
        intro heq
        have hlength := congrArg List.length heq
        exact hne (by simpa using hlength)
      simp [hlen] at h
    exact ⟨0o755, by rw [hnil]; rfl⟩

/-- Linux with umask `022`. -/
def linuxMachine : Machine Uuid := { plainMachine with mkdirMode := linuxMkdirMode 0o022 }

theorem linux_linuxMachine : Linux linuxMachine 0o022 := fun _ _ => rfl

theorem unobstructed_oneDirectory (mode : Mode) :
    (oneDirectory "srv".toList mode).Unobstructed ["srv".toList, "wiki".toList] := by
  have hdir : (oneDirectory "srv".toList mode).IsDir ["srv".toList] := ⟨mode, rfl⟩
  exact FileSystem.unobstructed_of_leaves hdir rfl []

theorem acceptable_oneDirectory (mode : Mode) :
    Acceptable (oneDirectory "srv".toList mode) ["srv".toList, "wiki".toList] := by
  intro p hp
  rcases hp with rfl | rfl | rfl <;> exact Or.inl rfl

theorem probeFree_oneDirectory (mode : Mode) :
    ProbeFree linuxMachine (freshWorld (oneDirectory "srv".toList mode))
      ["srv".toList, "wiki".toList] := rfl

/-- The requested directory. -/
def srvWiki : PathBuf := ⟨"/srv/wiki".toList⟩

theorem storageNames_srvWiki :
    storageNames linuxMachine srvWiki = ["srv".toList, "wiki".toList] := by decide

/-- Under an ordinary parent the bootstrap is accepted. -/
theorem prepare_accepts_ordinaryParent :
    ∃ storage w', LocalStorage.prepare linuxMachine srvWiki
      (freshWorld (oneDirectory "srv".toList 0o755)) = .ok storage w' := by
  have hclear := unobstructed_oneDirectory 0o755
  have hold := acceptable_oneDirectory 0o755
  have hfree := probeFree_oneDirectory 0o755
  have hplain : NoInheritedSetgid (oneDirectory "srv".toList 0o755)
      ["srv".toList, "wiki".toList] := by
    intro front name _ hdir _
    by_cases hroot : front = []
    · rw [hroot]
      decide
    · by_cases hsrv : front = ["srv".toList]
      · rw [hsrv]
        decide
      · exact absurd ((if_neg hroot).trans (if_neg hsrv)) hdir.ne_none
  rw [← storageNames_srvWiki] at hclear hold hfree hplain
  exact (prepare_accepts_iff linuxMachine 0o022 (freshWorld (oneDirectory "srv".toList 0o755))
    srvWiki linux_linuxMachine (by decide) (fun _ _ _ => rfl) (by decide) hclear hold).mpr
    ⟨hplain, hfree⟩

/-- **A set-group-ID parent is fatal.** Every premise of acceptance holds, and
`prepare` rejects the root that it has just created with mode `0o2700`. -/
theorem prepare_rejects_setgidParent :
    (ValidShape srvWiki ∧ Linux linuxMachine 0o022 ∧ KeepsOwner 0o022 ∧ linuxMachine.Calm 0 ∧
      (oneDirectory "srv".toList 0o2775).Unobstructed (storageNames linuxMachine srvWiki) ∧
      Acceptable (oneDirectory "srv".toList 0o2775) (storageNames linuxMachine srvWiki) ∧
      ProbeFree linuxMachine (freshWorld (oneDirectory "srv".toList 0o2775))
        (storageNames linuxMachine srvWiki)) ∧
    errorOf (LocalStorage.prepare linuxMachine srvWiki)
        (freshWorld (oneDirectory "srv".toList 0o2775)) =
      some (.unsafePermissions srvWiki 0o2700) := by
  refine ⟨⟨by decide, linux_linuxMachine, by decide, fun _ _ _ => rfl, ?_, ?_, ?_⟩, ?_⟩
  · rw [storageNames_srvWiki]
    exact unobstructed_oneDirectory 0o2775
  · rw [storageNames_srvWiki]
    exact acceptable_oneDirectory 0o2775
  · rw [storageNames_srvWiki]
    exact probeFree_oneDirectory 0o2775
  · decide +kernel

end WikiNext.Store
