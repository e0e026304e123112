import WikiNext.Store.StorageAcceptance
import WikiNext.Store.StorageFrame

/-!
# Restarting an interrupted bootstrap

A process that dies inside `LocalStorage::prepare` makes no further call; a disk
that fails turns calls down. Either way the next start finds a tree that some
part of a bootstrap has worked on.

§1 a tree that is ready, §2 what an interrupted run leaves, §3 restarts.
-/

namespace WikiNext.Store

open WikiNext.Foundation WikiNext.Core

variable {machine : Machine Uuid} {umask : Mode} {w w' : World} {requested : PathBuf}
  {names front : List Name} {fs fs' : FileSystem}

/-! ## §1  A tree that is ready -/

/-- Nothing in the tree stands in the way of a bootstrap. -/
structure Ready (fs : FileSystem) (names : List Name) : Prop where
  clear : fs.Unobstructed names
  acceptable : Acceptable fs names
  plain : NoInheritedSetgid fs names

/-- A directory that a bootstrap puts on the way has no set-group-ID bit. -/
theorem Ready.setgid_new (h : Ready fs names) (hlinux : Linux machine umask)
    (humask : KeepsOwner umask) (hgrown : Bootstrapped machine names fs fs')
    (hfront : front <+: names) (hnone : fs.node front = none) (hthere : fs'.IsDir front) :
    setgid (fs'.modeAt front) = 0 := by
  rcases (h.clear.above hfront).isDir_or_leaves with hdir | ⟨old, name, back, rfl, hdir, hleaves⟩
  · exact absurd hnone hdir.ne_none
  · rw [hgrown.setgid_eq hlinux humask hdir hleaves hthere]
    refine h.plain old name (List.IsPrefix.trans ?_ hfront) hdir hleaves
    exact ⟨back, by simp⟩

theorem mkdirMode_private (hlinux : Linux machine umask) (humask : KeepsOwner umask) :
    machine.mkdirMode 0o700 0o700 = 0o700 := by
  rw [hlinux, linuxMkdirMode_private humask]
  decide

/-- What is missing on the way is created private. -/
theorem Ready.front_private (h : Ready fs names) (hlinux : Linux machine umask)
    (humask : KeepsOwner umask) (hgrown : Bootstrapped machine names fs fs')
    (hfront : front <+: names) (hnone : fs.node front = none) (hthere : fs'.IsDir front) :
    fs'.modeAt front = 0o700 := by
  rw [hgrown.mode_added hlinux humask hnone hthere,
    h.setgid_new hlinux humask hgrown hfront hnone hthere]
  decide

/-- **A bootstrap creates private directories only.** -/
theorem Ready.added_private (h : Ready fs names) (hlinux : Linux machine umask)
    (humask : KeepsOwner umask) (hgrown : Bootstrapped machine names fs fs') {p : List Name}
    (hnone : fs.node p = none) (hthere : fs'.node p ≠ none) : fs'.node p = some (.dir 0o700) := by
  have honWay : ∀ {front : List Name}, front <+: names → fs.node front = none →
      fs'.IsDir front → fs'.node front = some (.dir 0o700) := fun hfront hnone hdir => by
    rw [hdir.node_eq, h.front_private hlinux humask hgrown hfront hnone hdir]
  obtain ⟨htarget, parent, name, heq, hparent, hmode⟩ := hgrown.added p hnone hthere
  rcases htarget with hfront | hchild
  · exact honWay hfront hnone ⟨_, hmode⟩
  · -- a child of the root: the root is private, whether it is old or new
    obtain rfl : parent = names := by
      rcases hchild with rfl | rfl
      · exact (List.append_inj' heq rfl).1.symm
      · exact (List.append_inj' heq rfl).1.symm
    have hprivate : fs'.node parent = some (.dir 0o700) := by
      rcases h.acceptable parent (Or.inl rfl) with hnew | hold
      · exact honWay (List.prefix_refl parent) hnew hparent
      · exact hgrown.kept _ _ hold
    rw [hmode, FileSystem.modeAt_eq hprivate, mkdirMode_private hlinux humask]

/-- **What a bootstrap added leaves the tree ready**, however far it got. -/
theorem Ready.grown (h : Ready fs names) (hlinux : Linux machine umask)
    (humask : KeepsOwner umask) (hgrown : Bootstrapped machine names fs fs') :
    Ready fs' names := by
  have hadded : ∀ {p : List Name}, fs.node p = none → fs'.node p ≠ none →
      fs'.node p = some (.dir 0o700) := h.added_private hlinux humask hgrown
  constructor
  · intro p hp hthere
    by_cases hnone : fs.node p = none
    · exact ⟨_, hadded hnone hthere⟩
    · obtain ⟨mode, hmode⟩ := h.clear p hp hnone
      exact ⟨mode, hgrown.kept _ _ hmode⟩
  · intro p hp
    rcases h.acceptable p hp with hnone | hprivate
    · by_cases hthere : fs'.node p = none
      · exact Or.inl hthere
      · exact Or.inr (hadded hnone hthere)
    · exact Or.inr (hgrown.kept _ _ hprivate)
  · intro front name hfront hdir hnone
    by_cases hold : fs.node front = none
    · exact h.setgid_new hlinux humask hgrown ((List.prefix_append _ _).trans hfront) hold hdir
    · have hdir' := h.clear front ((List.prefix_append _ _).trans hfront) hold
      rw [hgrown.modeAt_kept hdir']
      exact h.plain front name hfront hdir' (hgrown.none_before hnone)

/-! ## §2  What an interrupted run leaves -/

/-- Only the root, what leads to it and what is directly below it matter. -/
theorem Ready.congr (h : Ready fs names)
    (hsame : ∀ p, p.length ≤ names.length + 1 → fs'.node p = fs.node p) : Ready fs' names := by
  have hpre : ∀ p, p <+: names → p.length ≤ names.length + 1 :=
    fun p hp => hp.length_le.trans (Nat.le_succ _)
  constructor
  · intro p hp hthere
    rw [hsame p (hpre p hp)] at hthere
    obtain ⟨mode, hmode⟩ := h.clear p hp hthere
    exact ⟨mode, (hsame p (hpre p hp)).trans hmode⟩
  · intro p hp
    rw [hsame p (by rcases hp with rfl | rfl | rfl <;> simp)]
    exact h.acceptable p hp
  · intro front name hfront hdir' hnone
    rw [hsame _ (hpre _ hfront)] at hnone
    have hlength := hpre front ((List.prefix_append _ _).trans hfront)
    obtain ⟨mode, hmode⟩ := hdir'
    rw [hsame front hlength] at hmode
    rw [FileSystem.modeAt_eq ((hsame front hlength).trans hmode), ← FileSystem.modeAt_eq hmode]
    exact h.plain front name hfront ⟨mode, hmode⟩ hnone

/-- A probe file under `tmp` is in nobody's way. -/
theorem Ready.probeLeft (h : Ready fs names) {uuid : Uuid}
    (hleft : ProbeLeft machine (names ++ [tmpName]) uuid fs fs') : Ready fs' names := by
  obtain ⟨hdir, hfree, rfl⟩ := hleft
  refine h.congr fun p hp => ?_
  rw [FileSystem.add_node, if_neg]
  rintro rfl
  simp at hp

/-- The tree after a run: it has grown, and one probe may be left in it. -/
def Worked (machine : Machine Uuid) (names : List Name) (uuid : Uuid) (fs fs' : FileSystem) :
    Prop :=
  ∃ grown, Bootstrapped machine names fs grown ∧
    (fs' = grown ∨ ProbeLeft machine (names ++ [tmpName]) uuid grown fs')

/-- One start, however it ends. -/
theorem worked_prepare (machine : Machine Uuid) (requested : PathBuf) (w : World) :
    let w' := (outcome (LocalStorage.prepare machine requested) w).2
    Worked machine (storageNames machine requested) (machine.random w.drawn) w.fs w'.fs ∧
      w.drawn ≤ w'.drawn := by
  simp only [outcome]
  cases hrun : LocalStorage.prepare machine requested w with
  | ok storage w' =>
      obtain ⟨-, hdrawn, -, -, -, hgrown, -⟩ := (wp_prepare requested).of_ok hrun
      exact ⟨⟨_, hgrown, Or.inl rfl⟩, hdrawn ▸ Nat.le_succ _⟩
  | error e w' =>
      have hfail := (wp_prepare requested).of_error hrun
      refine ⟨?_, hfail.drawn⟩
      rcases hfail.frame with hgrown | ⟨-, grown, hgrown, hleft⟩
      · exact ⟨_, hgrown, Or.inl rfl⟩
      · exact ⟨grown, hgrown, Or.inr hleft⟩

theorem Ready.worked (h : Ready fs names) (hlinux : Linux machine umask)
    (humask : KeepsOwner umask) {uuid : Uuid} (hworked : Worked machine names uuid fs fs') :
    Ready fs' names := by
  obtain ⟨grown, hgrown, rfl | hleft⟩ := hworked
  · exact h.grown hlinux humask hgrown
  · exact (h.grown hlinux humask hgrown).probeLeft hleft

/-- Old nodes stay; new ones are private directories of the storage, and empty probes. -/
structure Framed (machine : Machine Uuid) (names : List Name) (fs fs' : FileSystem) : Prop where
  kept : ∀ p node, fs.node p = some node → fs'.node p = some node
  added : ∀ p, fs.node p = none → fs'.node p ≠ none →
    fs'.node p = some (.dir 0o700) ∧ BootstrapNames names p ∨
      ∃ n mode, p = probeNames names (machine.random n) ∧ fs'.node p = some (.file mode [])

theorem Framed.refl : Framed machine names fs fs where
  kept _ _ h := h
  added _ hnone hthere := absurd hnone hthere

theorem Framed.trans {fs'' : FileSystem} (h : Framed machine names fs fs')
    (h' : Framed machine names fs' fs'') : Framed machine names fs fs'' where
  kept p node hnode := h'.kept p node (h.kept p node hnode)
  added p hnone hthere := by
    by_cases hmiddle : fs'.node p = none
    · exact h'.added p hmiddle hthere
    · rcases h.added p hnone hmiddle with ⟨hdir, hname⟩ | ⟨n, mode, hp, hfile⟩
      · exact Or.inl ⟨h'.kept _ _ hdir, hname⟩
      · exact Or.inr ⟨n, mode, hp, h'.kept _ _ hfile⟩

theorem Ready.framed (h : Ready fs names) (hlinux : Linux machine umask)
    (humask : KeepsOwner umask) {n : Nat}
    (hworked : Worked machine names (machine.random n) fs fs') :
    Framed machine names fs fs' := by
  obtain ⟨grown, hgrown, rfl | hleft⟩ := hworked
  · exact ⟨hgrown.kept, fun p hnone hthere => Or.inl
      ⟨h.added_private hlinux humask hgrown hnone hthere, (hgrown.isDir_of_added hnone hthere).2⟩⟩
  · obtain ⟨hkept, hadded⟩ := hleft.undamaged hgrown
    refine ⟨hkept, fun p hnone hthere => ?_⟩
    rcases hadded p hnone hthere with ⟨-, hname⟩ | ⟨hp, mode, hfile⟩
    · -- a directory: the probe stands elsewhere, so the bootstrap made it
      obtain ⟨hdir, hfree, rfl⟩ := hleft
      have hne : p ≠ names ++ [tmpName] ++ [probeName (machine.random n)] := by
        rintro rfl
        exact not_bootstrapNames_probe _ _ hname
      rw [FileSystem.add_node, if_neg hne] at hthere ⊢
      exact Or.inl ⟨h.added_private hlinux humask hgrown hnone hthere, hname⟩
    · exact Or.inr ⟨n, mode, hp, hfile⟩

/-! ## §3  Restarts -/

/-- The world after so many starts, one after the other, however each ended. -/
def restarts (machine : Machine Uuid) (requested : PathBuf) : Nat → World → World
  | 0, w => w
  | n + 1, w => (outcome (LocalStorage.prepare machine requested) (restarts machine requested n w)).2

/-- **Starts** keep a tree ready. -/
theorem ready_restarts (hlinux : Linux machine umask) (humask : KeepsOwner umask)
    (h : Ready w.fs (storageNames machine requested)) (n : Nat) :
    Ready (restarts machine requested n w).fs (storageNames machine requested) ∧
      Framed machine (storageNames machine requested) w.fs
        (restarts machine requested n w).fs := by
  induction n with
  | zero => exact ⟨h, .refl⟩
  | succ n ih =>
      obtain ⟨hready, hframed⟩ := ih
      obtain ⟨hworked, -⟩ := worked_prepare machine requested (restarts machine requested n w)
      exact ⟨hready.worked hlinux humask hworked,
        hframed.trans (hready.framed hlinux humask hworked)⟩

/-- In a tree that is ready, a start whose calls are not turned down succeeds. -/
theorem Ready.prepare (h : Ready w.fs (storageNames machine requested))
    (hlinux : Linux machine umask) (humask : KeepsOwner umask) (hshape : ValidShape requested)
    (hcalm : machine.Calm w.calls) (hfree : ProbeFree machine w (storageNames machine requested)) :
    ∃ w', LocalStorage.prepare machine requested w =
      .ok (preparedStorage (storageNames machine requested)) w' := by
  obtain ⟨w', hok, -⟩ := prepare_returns machine w requested hcalm hshape h.clear hfree
    (fun _ _ _ hgrown => hgrown.not_wrongDirectory h.acceptable
      (h.front_private hlinux humask hgrown (List.prefix_refl _))
      (mkdirMode_private hlinux humask))
  exact ⟨w', hok⟩

/-- **An interrupted bootstrap can always be restarted.** Take a tree that nothing
stands in the way of a bootstrap in. After any number of starts, each cut short
at any of its calls or turned down at any of them: every node that was there is
there unchanged; what is new are private directories of the storage and empty
probes;
and the first start whose calls go through and whose probe name is unused
succeeds, with a private root, `blobs` and `tmp`. -/
theorem storage_recovers (machine : Machine Uuid) (umask : Mode) (w : World)
    (requested : PathBuf) (hlinux : Linux machine umask) (humask : KeepsOwner umask)
    (hshape : ValidShape requested)
    (hclear : w.fs.Unobstructed (storageNames machine requested))
    (hacceptable : Acceptable w.fs (storageNames machine requested))
    (hplain : NoInheritedSetgid w.fs (storageNames machine requested)) (n : Nat) :
    let w' := restarts machine requested n w
    (∀ p node, w.fs.node p = some node → w'.fs.node p = some node) ∧
    (∀ p, w.fs.node p = none → w'.fs.node p ≠ none →
      w'.fs.node p = some (.dir 0o700) ∧ BootstrapNames (storageNames machine requested) p ∨
        ∃ k mode, p = probeNames (storageNames machine requested) (machine.random k) ∧
          w'.fs.node p = some (.file mode [])) ∧
    (machine.Calm w'.calls → ProbeFree machine w' (storageNames machine requested) →
      ∃ storage w'', LocalStorage.prepare machine requested w' = .ok storage w'' ∧
        PrivateTree w''.fs (storageNames machine requested)) := by
  obtain ⟨hready, hframed⟩ := ready_restarts hlinux humask ⟨hclear, hacceptable, hplain⟩ n
  refine ⟨hframed.kept, hframed.added, ?_⟩
  intro hcalm hfree
  obtain ⟨w'', hok⟩ := hready.prepare hlinux humask hshape hcalm hfree
  obtain ⟨-, -, -, -, -, -, -, htree, -⟩ := (wp_prepare requested).of_ok hok
  exact ⟨_, w'', hok, htree⟩

/-- Linux; the eighth call is turned down. -/
def failingMachine : Machine Uuid :=
  { linuxMachine with refuses := fun n _ => if n = 7 then some (.other 5) else none }

theorem noInheritedSetgid_oneDirectory :
    NoInheritedSetgid (oneDirectory "srv".toList 0o755) ["srv".toList, "wiki".toList] := by
  intro front name _ hdir _
  obtain ⟨mode, hmode⟩ := hdir
  rw [FileSystem.modeAt_eq hmode]
  simp only [oneDirectory] at hmode
  split_ifs at hmode
  · cases hmode
    decide
  · cases hmode
    decide

/-- After the first start, which fails halfway. -/
def halfway : World :=
  restarts failingMachine srvWiki 1 (freshWorld (oneDirectory "srv".toList 0o755))

/-- The root of that start. -/
def srvWikiNames : List Name := ["srv".toList, "wiki".toList]

theorem calls_halfway : halfway.calls = 8 := by decide +kernel

theorem noTmp_halfway : (halfway.fs.node (srvWikiNames ++ [tmpName])).isNone = true := by
  decide +kernel

theorem probeFree_halfway : ProbeFree failingMachine halfway srvWikiNames :=
  FileSystem.node_append_eq_none (Option.isNone_iff_eq_none.mp noTmp_halfway) _

/-- The second start succeeds. -/
theorem storage_recovers_halfway :
    ∃ storage w', LocalStorage.prepare failingMachine srvWiki halfway = .ok storage w' ∧
      PrivateTree w'.fs srvWikiNames := by
  have hnames : storageNames failingMachine srvWiki = srvWikiNames := by decide
  have hcalm : failingMachine.Calm halfway.calls := by
    intro n hn _
    rw [calls_halfway] at hn
    exact if_neg (by omega)
  have hrestart := storage_recovers failingMachine 0o022
    (freshWorld (oneDirectory "srv".toList 0o755)) srvWiki linux_linuxMachine (by decide)
    (by decide) (by rw [hnames]; exact unobstructed_oneDirectory 0o755)
    (by rw [hnames]; exact acceptable_oneDirectory 0o755)
    (by rw [hnames]; exact noInheritedSetgid_oneDirectory) 1
  rw [hnames] at hrestart
  exact hrestart.2.2 hcalm probeFree_halfway

end WikiNext.Store
