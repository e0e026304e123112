import WikiNext.Foundation.Interleaving
import WikiNext.Store.StorageRecovery
import WikiNext.Store.UuidText

/-!
# Processes that share a storage

A server that is started twice, a doctor next to a server, a server that probes
while another one boots: each is a session on the same tree, and between two
calls of one anything may be done by the others.

§1 the tree while all work, §2 what a process counts on and promises, §3 what it
knows, §4 what its calls change.
-/

namespace WikiNext.Store

open WikiNext.Foundation WikiNext.Core

variable {ι : Type} {machine : ι → Machine Uuid} {umask : ι → Mode} {names : List Name}
  {fs₀ fs fs' : FileSystem}

/-! ## §1  The tree while all work -/

/-- The tree stays ready for a bootstrap; what was there at first is there, and what
is new are directories of the storage, and empty probes of some process. -/
structure Standing (machine : ι → Machine Uuid) (names : List Name) (fs₀ fs : FileSystem) :
    Prop where
  ready : Ready fs names
  kept : ∀ p node, fs₀.node p = some node → fs.node p = some node
  added : ∀ p, fs₀.node p = none → fs.node p ≠ none →
    fs.IsDir p ∧ BootstrapNames names p ∨
      ∃ i n mode, p = probeNames names ((machine i).random n) ∧ fs.node p = some (.file mode [])

theorem BootstrapNames.parent {front : List Name} {name : Name}
    (h : BootstrapNames names (front ++ [name])) :
    front <+: names := by
  rcases h with h | h | h
  · exact (List.prefix_append _ _).trans h
  · exact (List.append_inj' h rfl).1 ▸ List.prefix_refl _
  · exact (List.append_inj' h rfl).1 ▸ List.prefix_refl _

theorem BootstrapNames.plain {p : List Name} (h : BootstrapNames names p)
    (hnames : RootNames names) : ∀ name ∈ p, PlainName name := by
  rcases h with h | rfl | rfl
  · exact fun name hname => hnames.plain name (h.subset hname)
  · intro name hname
    rcases List.mem_append.mp hname with hname | hname
    · exact hnames.plain name hname
    · exact List.mem_singleton.mp hname ▸ plainName_blobs
  · intro name hname
    rcases List.mem_append.mp hname with hname | hname
    · exact hnames.plain name hname
    · exact List.mem_singleton.mp hname ▸ plainName_tmp

theorem BootstrapNames.ne_probe {p : List Name} (h : BootstrapNames names p) (uuid : Uuid) :
    p ≠ probeNames names uuid := by
  rintro rfl
  exact not_bootstrapNames_probe names _ h

theorem probeNames_injective : Function.Injective (probeNames names) := by
  intro uuid uuid' h
  have hname : probeName uuid = probeName uuid' :=
    List.singleton_inj.mp (List.append_cancel_left h)
  exact uuidText_injective (congrArg String.ofList (List.append_cancel_left hname))

/-- What stands where the storage goes is a directory. -/
theorem Ready.isDir (h : Ready fs names) {p : List Name} (hp : BootstrapNames names p)
    (hthere : fs.node p ≠ none) : fs.IsDir p := by
  rcases hp with hp | hp
  · exact h.clear p hp hthere
  · exact ⟨_, (h.acceptable p (Or.inr hp)).resolve_left hthere⟩

/-- A directory that a process makes. -/
theorem Standing.made (h : Standing machine names fs₀ fs) {i : ι}
    (hlinux : Linux (machine i) (umask i)) (humask : KeepsOwner (umask i))
    {front : List Name} {name : Name}
    (hdir : fs.IsDir front) (hfree : fs.node (front ++ [name]) = none)
    (hname : BootstrapNames names (front ++ [name])) :
    Standing machine names fs₀ (fs.add front name
      (.dir ((machine i).mkdirMode 0o700 (fs.modeAt front))) hdir hfree) := by
  have hgrown : Bootstrapped (machine i) names fs _ := .of_add hdir hfree hname
  refine ⟨h.ready.grown hlinux humask hgrown, fun p node hnode => hgrown.kept _ _ (h.kept _ _ hnode),
    ?_⟩
  intro p hnone hthere
  by_cases hold : fs.node p = none
  · exact Or.inl (hgrown.isDir_of_added hold hthere)
  · rcases h.added p hnone hold with ⟨⟨mode, hmode⟩, hp⟩ | ⟨j, n, mode, hp, hmode⟩
    · exact Or.inl ⟨⟨mode, hgrown.kept _ _ hmode⟩, hp⟩
    · exact Or.inr ⟨j, n, mode, hp, hgrown.kept _ _ hmode⟩

/-- A probe that a process puts into `tmp`. -/
theorem Standing.probed (h : Standing machine names fs₀ fs) {i : ι} {n : Nat} {mode : Mode}
    (hdir : fs.IsDir (names ++ [tmpName]))
    (hfree : fs.node (probeNames names ((machine i).random n)) = none) :
    Standing machine names fs₀
      (fs.add (names ++ [tmpName]) (probeName ((machine i).random n)) (.file mode []) hdir
        hfree) := by
  have hother : ∀ p, p ≠ probeNames names ((machine i).random n) →
      (fs.add (names ++ [tmpName]) (probeName ((machine i).random n)) (.file mode []) hdir
        hfree).node p = fs.node p := fun p hp => if_neg hp
  refine ⟨h.ready.congr fun p hp => hother p ?_, ?_, ?_⟩
  · rintro rfl
    simp [probeNames] at hp
  · intro p node hnode
    have hold := h.kept p node hnode
    rw [hother p, hold]
    rintro rfl
    rw [hfree] at hold
    cases hold
  · intro p hnone hthere
    by_cases hp : p = probeNames names ((machine i).random n)
    · exact Or.inr ⟨i, n, mode, hp, if_pos hp⟩
    · rw [hother p hp] at hthere
      have hsame := hother p hp
      rcases h.added p hnone hthere with ⟨⟨mode', hmode⟩, hname⟩ | ⟨j, m, mode', hname, hmode⟩
      · exact Or.inl ⟨⟨mode', hsame.trans hmode⟩, hname⟩
      · exact Or.inr ⟨j, m, mode', hname, hsame.trans hmode⟩

/-- A probe that is removed, and was not there at first. -/
theorem Standing.unprobed (h : Standing machine names fs₀ fs) {uuid : Uuid}
    (hfile : ¬ fs.IsDir (probeNames names uuid)) (hnew : fs₀.node (probeNames names uuid) = none) :
    Standing machine names fs₀ (fs.remove (probeNames names uuid) hfile) := by
  have hother : ∀ p, p ≠ probeNames names uuid →
      (fs.remove (probeNames names uuid) hfile).node p = fs.node p := fun p hp => if_neg hp
  refine ⟨h.ready.congr fun p hp => hother p ?_, ?_, ?_⟩
  · rintro rfl
    simp [probeNames] at hp
  · intro p node hnode
    rw [hother p, h.kept p node hnode]
    rintro rfl
    rw [hnew] at hnode
    cases hnode
  · intro p hnone hthere
    by_cases hp : p = probeNames names uuid
    · exact absurd (if_pos hp) hthere
    · have hsame := hother p hp
      rw [hsame] at hthere
      rcases h.added p hnone hthere with ⟨⟨mode, hmode⟩, hname⟩ | ⟨j, m, mode, hname, hmode⟩
      · exact Or.inl ⟨⟨mode, hsame.trans hmode⟩, hname⟩
      · exact Or.inr ⟨j, m, mode, hname, hsame.trans hmode⟩

/-! ## §2  What a process counts on and promises -/

/-- From `fs` to `fs'` nothing went but probes, and no probe of `these` came or went. -/
structure Leaves (machine : ι → Machine Uuid) (names : List Name) (fs₀ : FileSystem)
    (these : Uuid → Prop) (fs fs' : FileSystem) : Prop where
  standing : Standing machine names fs₀ fs → Standing machine names fs₀ fs'
  kept : ∀ p node, (∀ uuid, p ≠ probeNames names uuid) → fs.node p = some node →
    fs'.node p = some node
  probes : ∀ uuid, these uuid →
    fs'.node (probeNames names uuid) = fs.node (probeNames names uuid)

theorem Leaves.refl {these : Uuid → Prop} : Leaves machine names fs₀ these fs fs :=
  ⟨id, fun _ _ _ h => h, fun _ _ => rfl⟩

theorem Leaves.trans {these : Uuid → Prop} {fs'' : FileSystem}
    (h : Leaves machine names fs₀ these fs fs') (h' : Leaves machine names fs₀ these fs' fs'') :
    Leaves machine names fs₀ these fs fs'' where
  standing := h'.standing ∘ h.standing
  kept p node hp hnode := h'.kept p node hp (h.kept p node hp hnode)
  probes uuid huuid := (h'.probes uuid huuid).trans (h.probes uuid huuid)

/-- The UUIDs that a machine draws. -/
def Draws (machine : Machine Uuid) (uuid : Uuid) : Prop := ∃ n, machine.random n = uuid

/-- A process counts on its own counters and probes, and keeps its hands off the
probes of others. -/
def storageTerms (machine : ι → Machine Uuid) (names : List Name) (fs₀ : FileSystem) (i : ι) :
    Terms World where
  rely w w' := (w'.calls = w.calls ∧ w'.drawn = w.drawn) ∧
    Leaves machine names fs₀ (Draws (machine i)) w.fs w'.fs
  guarantee w w' := Leaves machine names fs₀ (fun uuid => ¬ Draws (machine i) uuid) w.fs w'.fs

/-- The tree is shared; each process counts its own calls and draws. -/
def worldView : World ≃ FileSystem × (Nat × Nat) where
  toFun w := (w.fs, w.calls, w.drawn)
  invFun s := ⟨s.1, s.2.1, s.2.2⟩
  left_inv _ := rfl
  right_inv _ := rfl

/-- Processes that draw different UUIDs agree. -/
theorem storage_agreement
    (hdistinct : ∀ i j, i ≠ j → ∀ m n, (machine i).random m ≠ (machine j).random n) :
    Agreement worldView (storageTerms machine names fs₀) where
  refl _ _ := ⟨⟨rfl, rfl⟩, .refl⟩
  trans _ _ _ _ h h' := ⟨⟨h'.1.1.trans h.1.1, h'.1.2.trans h.1.2⟩, h.2.trans h'.2⟩
  promised i j hij s s' own h := by
    refine ⟨⟨rfl, rfl⟩, h.standing, h.kept, ?_⟩
    rintro uuid ⟨n, rfl⟩
    refine h.probes _ ?_
    rintro ⟨m, hm⟩
    exact hdistinct i j hij.symm m n hm

/-! ## §3  What a process knows -/

/-- None of the process' own calls is turned down, and none of its probes has the
name of something old. -/
structure Clean (machine : Machine Uuid) (names : List Name) (fs₀ : FileSystem) : Prop where
  calm : machine.Calm 0
  unused : ∀ n, fs₀.node (probeNames names (machine.random n)) = none

/-- What process `i` knows in the middle of its work: these directories are there,
and this probe is, if any; no other probe of its own is, if nothing went wrong. -/
structure Working (machine : ι → Machine Uuid) (names : List Name) (fs₀ : FileSystem) (i : ι)
    (made : List (List Name)) (probe : Option Uuid) (w : World) : Prop where
  standing : Standing machine names fs₀ w.fs
  dirs : ∀ p ∈ made, BootstrapNames names p ∧ w.fs.IsDir p
  mine : ∀ uuid, probe = some uuid → Draws (machine i) uuid ∧
    fs₀.node (probeNames names uuid) = none ∧
      ∃ mode, w.fs.node (probeNames names uuid) = some (.file mode [])
  others : Clean (machine i) names fs₀ → ∀ n, probe ≠ some ((machine i).random n) →
    w.fs.node (probeNames names ((machine i).random n)) = none

variable {i : ι} {made : List (List Name)} {probe : Option Uuid} {w t : World}

/-- The others do not touch what a process knows. -/
theorem Working.relied (h : Working machine names fs₀ i made probe w)
    (ht : (storageTerms machine names fs₀ i).rely w t) :
    Working machine names fs₀ i made probe t := by
  obtain ⟨-, hleaves⟩ := ht
  refine ⟨hleaves.standing h.standing, ?_, ?_, ?_⟩
  · intro p hp
    obtain ⟨hname, mode, hmode⟩ := h.dirs p hp
    exact ⟨hname, mode, hleaves.kept p _ hname.ne_probe hmode⟩
  · intro uuid huuid
    obtain ⟨hdrawn, hnew, mode, hmode⟩ := h.mine uuid huuid
    exact ⟨hdrawn, hnew, mode, (hleaves.probes uuid hdrawn).trans hmode⟩
  · intro hclean n hn
    rw [hleaves.probes _ ⟨n, rfl⟩]
    exact h.others hclean n hn

theorem Working.congr (h : Working machine names fs₀ i made probe w) (hfs : t.fs = w.fs) :
    Working machine names fs₀ i made probe t := by
  obtain ⟨standing, dirs, mine, others⟩ := h
  rw [← hfs] at standing dirs mine others
  exact ⟨standing, dirs, mine, others⟩

/-- One more directory that is there. -/
theorem Working.found (h : Working machine names fs₀ i made probe w) {p : List Name}
    (hp : BootstrapNames names p) (hthere : w.fs.node p ≠ none) :
    Working machine names fs₀ i (p :: made) probe w where
  standing := h.standing
  dirs q hq := by
    rcases List.mem_cons.mp hq with rfl | hq
    · exact ⟨hp, h.standing.ready.isDir hp hthere⟩
    · exact h.dirs q hq
  mine := h.mine
  others := h.others

theorem Working.forget (h : Working machine names fs₀ i made probe w) {less : List (List Name)}
    (hsub : less ⊆ made) : Working machine names fs₀ i less probe w :=
  ⟨h.standing, fun p hp => h.dirs p (hsub hp), h.mine, h.others⟩

theorem Clean.not_refused {machine : Machine Uuid} (h : Clean machine names fs₀) {n : Nat}
    {syscall : Syscall} {r : Refusal} : machine.refuses n syscall ≠ some r := by
  simp [h.calm n (Nat.zero_le n)]

/-! ## §4  What its calls change -/

/-- A call from `w` keeps the promise, and what is known after it is enough for `Q`. -/
def Moves (machine : ι → Machine Uuid) (names : List Name) (fs₀ : FileSystem) (i : ι) (w : World)
    (Q : World → Prop) (w' : World) : Prop :=
  (storageTerms machine names fs₀ i).guarantee w w' ∧
    ∃ made probe, Working machine names fs₀ i made probe w' ∧
      ∀ t, Working machine names fs₀ i made probe t → Q t

theorem under_moves {ε α : Type} {m : EStateM ε World α} {Q : α → World → Prop}
    {E : ε → World → Prop}
    (h : Wp m (fun a => Moves machine names fs₀ i w (Q a))
      (fun e => Moves machine names fs₀ i w (E e)) w) :
    Under (storageTerms machine names fs₀ i) (.call m) Q E w := by
  refine under_call (h.mono ?_ ?_)
  · rintro a w' ⟨hpromise, made, probe, hworking, hQ⟩
    exact ⟨hpromise, fun t ht => hQ t (hworking.relied ht)⟩
  · rintro e w' ⟨hpromise, made, probe, hworking, hE⟩
    exact ⟨hpromise, fun t ht => hE t (hworking.relied ht)⟩

/-- A call that leaves the tree alone. -/
theorem Working.looks (h : Working machine names fs₀ i made probe w) {Q : World → Prop}
    (hfs : t.fs = w.fs) (hQ : ∀ t, Working machine names fs₀ i made probe t → Q t) :
    Moves machine names fs₀ i w Q t := by
  refine ⟨?_, made, probe, h.congr hfs, hQ⟩
  show Leaves machine names fs₀ _ w.fs t.fs
  rw [hfs]
  exact .refl

/-- A directory that process `i` makes, as the others see it and as it knows it. -/
theorem Working.makes (h : Working machine names fs₀ i made none w)
    (hlinux : Linux (machine i) (umask i)) (humask : KeepsOwner (umask i)) {front : List Name}
    {name : Name} (hdir : w.fs.IsDir front) (hfree : w.fs.node (front ++ [name]) = none)
    (hp : BootstrapNames names (front ++ [name])) {Q : World → Prop}
    (hQ : ∀ t, Working machine names fs₀ i ((front ++ [name]) :: made) none t → Q t) :
    Moves machine names fs₀ i w Q (w.tickTo (w.fs.add front name
      (.dir ((machine i).mkdirMode 0o700 (w.fs.modeAt front))) hdir hfree)) := by
  have hgrown : Bootstrapped (machine i) names w.fs _ := .of_add hdir hfree hp
  refine ⟨⟨fun hs => hs.made hlinux humask hdir hfree hp,
    fun p node _ hnode => hgrown.kept _ _ hnode, fun uuid _ => hgrown.node_probe uuid⟩, (front ++ [name]) :: made, none, ?_, hQ⟩
  have hmade : Working machine names fs₀ i made none (w.tickTo (w.fs.add front name
      (.dir ((machine i).mkdirMode 0o700 (w.fs.modeAt front))) hdir hfree)) := by
    refine ⟨h.standing.made hlinux humask hdir hfree hp, ?_, nofun, ?_⟩
    · intro p hp
      obtain ⟨hname, hisDir⟩ := h.dirs p hp
      exact ⟨hname, hgrown.isDir hisDir⟩
    · intro hclean n hn
      rw [World.tickTo_fs, hgrown.node_probe]
      exact h.others hclean n hn
  exact hmade.found hp (by simp)

/-- The probe that process `i` puts into `tmp`. -/
theorem Working.puts (h : Working machine names fs₀ i made none w) {n : Nat}
    (hdir : w.fs.IsDir (names ++ [tmpName]))
    (hfree : w.fs.node (probeNames names ((machine i).random n)) = none) {Q : World → Prop}
    (hQ : ∀ t, Working machine names fs₀ i made (some ((machine i).random n)) t → Q t) :
    Moves machine names fs₀ i w Q (w.tickTo (w.fs.add (names ++ [tmpName])
      (probeName ((machine i).random n)) (.file (machine i).createMode []) hdir hfree)) := by
  have hother : ∀ p, p ≠ probeNames names ((machine i).random n) →
      (w.fs.add (names ++ [tmpName]) (probeName ((machine i).random n))
        (.file (machine i).createMode []) hdir hfree).node p = w.fs.node p := fun p hp => if_neg hp
  refine ⟨⟨fun hs => hs.probed hdir hfree, ?_, ?_⟩, made, _, ?_, hQ⟩
  · intro p node hp hnode
    exact (hother p (hp _)).trans hnode
  · intro uuid huuid
    refine hother _ fun heq => huuid ⟨n, probeNames_injective heq.symm⟩
  · refine ⟨h.standing.probed hdir hfree, ?_, ?_, ?_⟩
    · intro p hp
      obtain ⟨hname, mode, hmode⟩ := h.dirs p hp
      exact ⟨hname, mode, (hother p (hname.ne_probe _)).trans hmode⟩
    · rintro uuid ⟨⟩
      refine ⟨⟨n, rfl⟩, ?_, _, if_pos rfl⟩
      by_contra hold
      obtain ⟨node, hnode⟩ := Option.ne_none_iff_exists'.mp hold
      rw [h.standing.kept _ _ hnode] at hfree
      cases hfree
    · intro hclean m hm
      refine (hother _ fun heq => hm ?_).trans (h.others hclean m (Option.some_ne_none _).symm)
      exact congrArg some (probeNames_injective heq).symm

/-- The probe that it removes again. -/
theorem Working.takes {uuid : Uuid} (h : Working machine names fs₀ i made (some uuid) w)
    (hfile : ¬ w.fs.IsDir (probeNames names uuid)) {Q : World → Prop}
    (hQ : ∀ t, Working machine names fs₀ i made none t → Q t) :
    Moves machine names fs₀ i w Q (w.tickTo (w.fs.remove (probeNames names uuid) hfile)) := by
  have hother : ∀ p, p ≠ probeNames names uuid →
      (w.fs.remove (probeNames names uuid) hfile).node p = w.fs.node p := fun p hp => if_neg hp
  obtain ⟨hdrawn, hnew, -⟩ := h.mine uuid rfl
  refine ⟨⟨fun hs => hs.unprobed hfile hnew, ?_, ?_⟩, made, none, ?_, hQ⟩
  · intro p node hp hnode
    exact (hother p (hp _)).trans hnode
  · intro other hmine
    refine hother _ fun heq => hmine ?_
    rw [probeNames_injective heq]
    exact hdrawn
  · refine ⟨h.standing.unprobed hfile hnew, ?_, nofun, ?_⟩
    · intro p hp
      obtain ⟨hname, mode, hmode⟩ := h.dirs p hp
      exact ⟨hname, mode, (hother p (hname.ne_probe _)).trans hmode⟩
    · intro hclean m _
      by_cases hm : uuid = (machine i).random m
      · exact if_pos (congrArg _ hm.symm)
      · refine (hother _ fun heq => hm (probeNames_injective heq).symm).trans ?_
        exact h.others hclean m fun heq => hm (Option.some.inj heq)

/-- A probe that could not be removed is left to its fate. -/
theorem Working.abandon {uuid : Uuid} (h : Working machine names fs₀ i made (some uuid) w)
    (hclean : ¬ Clean (machine i) names fs₀) : Working machine names fs₀ i made none w :=
  ⟨h.standing, h.dirs, nofun, fun h => absurd h hclean⟩

end WikiNext.Store
