import Courier.Command.Watch
import Courier.Proofs.Program.WellFormed
import Courier.Proofs.Registry
import Mathlib.Data.List.Perm.Basic
import Mathlib.Data.List.Forall2
import Mathlib.Data.List.Induction

/-! The programs of a service over its whole history: whatever was registered, removed, and loaded from
files and directories, and however much of that failed.
A directory is loaded one program after the other, and nothing undoes the first registrations when a
later one is refused. That none is refused lies with the compiler: what it hands out passes the check
that a registration makes. -/
namespace Courier

/-! What reading several files gives. -/

namespace Source

/-- What the compiler hands out passes the check of programs. -/
theorem check_of_parseFile {fs : Files} {path : String} {p : Program}
    (h : parseFile fs path = .ok p) : p.check = .ok () := by
  unfold parseFile at h
  split at h
  · cases h
  · next text _ =>
    obtain ⟨d, hbuild, -⟩ := parse_eq_ok (mapError_eq_ok h)
    obtain ⟨rfl, hdraft⟩ := Draft.of_build_eq_ok hbuild
    exact (Draft.program_check_eq_ok_iff d).mpr hdraft

/-- Files whose programs have different names. -/
def Distinct (fs : Files) (files : List String) : Prop :=
  files.Pairwise fun f g => ∀ p q, parseFile fs f = .ok p → parseFile fs g = .ok q → p.name ≠ q.name

/-- Files that all compile, to programs with different names. -/
def Loadable (fs : Files) (files : List String) : Prop :=
  (∀ f ∈ files, ∃ p, parseFile fs f = .ok p) ∧ Distinct fs files

/-- The order of the files makes no difference. -/
theorem Loadable.perm {fs : Files} {files files' : List String} (h : Loadable fs files)
    (hperm : files.Perm files') : Loadable fs files' := by
  refine ⟨fun f hf => h.1 f (hperm.mem_iff.mpr hf), h.2.perm hperm fun hne p q hp hq => ?_⟩
  exact (hne q p hq hp).symm

theorem parseFiles_eq_ok {fs : Files} {files : List String} {seen : List (String × String)}
    {ps : List Program} (h : parseFiles fs files seen = .ok ps) :
    List.Forall₂ (fun f p => parseFile fs f = .ok p) files ps ∧ (ps.map Program.name).Nodup ∧
      ∀ p ∈ ps, ∀ s ∈ seen, s.1 ≠ p.name := by
  induction files generalizing seen ps with
  | nil =>
    cases h
    exact ⟨.nil, List.nodup_nil, nofun⟩
  | cons f files ih =>
    rw [parseFiles] at h
    obtain ⟨p, hp, h⟩ := bind_eq_ok h
    split at h
    · cases h
    · next hnew =>
      obtain ⟨qs, hqs, h⟩ := bind_eq_ok h
      cases h
      obtain ⟨hfiles, hnodup, hseen⟩ := ih hqs
      have hfirst : ∀ s ∈ seen, s.1 ≠ p.name := by
        intro s hs
        have := List.find?_eq_none.mp hnew s hs
        simpa using this
      refine ⟨.cons hp hfiles, ?_, ?_⟩
      · refine List.nodup_cons.mpr ⟨fun hmem => ?_, hnodup⟩
        obtain ⟨q, hq, hname⟩ := List.mem_map.mp hmem
        exact hseen q hq (p.name, f) List.mem_cons_self hname.symm
      · intro q hq s hs
        rcases List.mem_cons.mp hq with rfl | hq
        · exact hfirst s hs
        · exact hseen q hq s (List.mem_cons_of_mem _ hs)

/-- Files are read one after the other, and nothing but a file that does not compile or a name that was
there before stops the reading. -/
theorem exists_parseFiles {fs : Files} {files : List String} {seen : List (String × String)}
    (h : Loadable fs files)
    (hseen : ∀ f ∈ files, ∀ p, parseFile fs f = .ok p → ∀ s ∈ seen, s.1 ≠ p.name) :
    ∃ ps, parseFiles fs files seen = .ok ps := by
  induction files generalizing seen with
  | nil => exact ⟨[], rfl⟩
  | cons f files ih =>
    obtain ⟨hcompiles, hdistinct⟩ := h
    obtain ⟨hfirst, hrest⟩ := List.pairwise_cons.mp hdistinct
    obtain ⟨p, hp⟩ := hcompiles f List.mem_cons_self
    have hnew : (seen.find? fun s => s.1 = p.name) = none := by
      rw [List.find?_eq_none]
      intro s hs
      simpa using hseen f List.mem_cons_self p hp s hs
    -- The files that are left have neither a name from before nor that of the first file.
    have hleft : ∀ g ∈ files, ∀ q, parseFile fs g = .ok q → ∀ s ∈ (p.name, f) :: seen, s.1 ≠ q.name := by
      intro g hg q hq s hs
      rcases List.mem_cons.mp hs with rfl | hs
      · exact hfirst g hg p q hp hq
      · exact hseen g (List.mem_cons_of_mem f hg) q hq s hs
    obtain ⟨ps, hps⟩ := ih ⟨fun g hg => hcompiles g (List.mem_cons_of_mem f hg), hrest⟩ hleft
    refine ⟨p :: ps, ?_⟩
    rw [parseFiles, hp]
    simp only [bind, Except.bind, hnew, hps]

theorem loadable_of_forall₂ {fs : Files} {files : List String} {ps : List Program}
    (h : List.Forall₂ (fun f p => parseFile fs f = .ok p) files ps)
    (hnodup : (ps.map Program.name).Nodup) : Loadable fs files := by
  induction h with
  | nil => exact ⟨nofun, .nil⟩
  | @cons f p files ps hp hrest ih =>
    obtain ⟨hname, hnodup⟩ := List.nodup_cons.mp hnodup
    obtain ⟨hcompiles, hdistinct⟩ := ih hnodup
    refine ⟨List.forall_mem_cons.mpr ⟨⟨p, hp⟩, hcompiles⟩, List.pairwise_cons.mpr ⟨?_, hdistinct⟩⟩
    intro g hg p' q hp' hq heq
    cases hp.symm.trans hp'
    -- The other file has its program among those that were read.
    obtain ⟨q', hq', hmem⟩ : ∃ q', parseFile fs g = .ok q' ∧ q' ∈ ps := by
      obtain ⟨i, hi, rfl⟩ := List.mem_iff_getElem.mp hg
      have hi' : i < ps.length := hrest.length_eq ▸ hi
      exact ⟨ps[i], hrest.get hi hi', List.getElem_mem hi'⟩
    cases hq.symm.trans hq'
    exact hname (List.mem_map.mpr ⟨q, hmem, heq.symm⟩)

/-- A directory is read exactly if its program files can be loaded, in whatever order they are listed. -/
theorem loadDir_eq_ok_iff {fs : Files} {dir : String} {names files : List String}
    (hnames : fs.names dir = .ok names)
    (hfiles : files.Perm ((names.filter isProgramFile).map (Path.join dir))) :
    (∃ ps, loadDir fs dir = .ok ps) ↔ Loadable fs files := by
  have hsorted := Text.perm_sort ((names.filter isProgramFile).map (Path.join dir))
  rw [loadDir, hnames]
  constructor
  · rintro ⟨ps, hps⟩
    obtain ⟨hread, hnodup, -⟩ := parseFiles_eq_ok hps
    exact (loadable_of_forall₂ hread hnodup).perm (hsorted.trans hfiles.symm)
  · intro hload
    exact exists_parseFiles (hload.perm (hfiles.trans hsorted.symm)) fun _ _ _ _ _ => nofun

end Source

/-! What operations do to the programs that are registered. -/

/-- A change of what is registered. -/
inductive Change
  | put (p : Program)
  | drop (name : String)

namespace Change

/-- The name that a change is about. -/
def name : Change → String
  | .put p => p.name
  | .drop name => name

def apply (r : Registry) : Change → Registry
  | .put p => Keyed.insert p.name p r
  | .drop name => Keyed.erase name r

/-- The program that was put last under a name, and is not dropped since. -/
def Stands (cs : List Change) (name : String) (p : Program) : Prop :=
  ∃ before after, cs = before ++ .put p :: after ∧ p.name = name ∧ ∀ c ∈ after, c.name ≠ name

/-- One change more: it puts the program itself, or it is about another name. -/
theorem stands_append {cs : List Change} {c : Change} {name : String} {p : Program} :
    Stands (cs ++ [c]) name p ↔ c = .put p ∧ p.name = name ∨ c.name ≠ name ∧ Stands cs name p := by
  constructor
  · rintro ⟨before, after, hcs, hp, hafter⟩
    rcases List.eq_nil_or_concat' after with rfl | ⟨rest, d, rfl⟩
    · obtain ⟨-, hlast⟩ := List.append_inj' hcs rfl
      exact .inl ⟨List.head_eq_of_cons_eq hlast, hp⟩
    · rw [← List.cons_append, ← List.append_assoc] at hcs
      obtain ⟨hbefore, hlast⟩ := List.append_inj' hcs rfl
      cases hlast
      exact .inr ⟨hafter c (List.mem_append_right _ List.mem_cons_self), before, rest, hbefore, hp,
        fun d hd => hafter d (List.mem_append_left _ hd)⟩
  · rintro (⟨rfl, hp⟩ | ⟨hc, before, after, rfl, hp, hafter⟩)
    · exact ⟨cs, [], rfl, hp, nofun⟩
    · refine ⟨before, after ++ [c], by simp, hp, fun d hd => ?_⟩
      rcases List.mem_append.mp hd with hd | hd
      · exact hafter d hd
      · rwa [List.mem_singleton.mp hd]

/-- A change leaves what stands under other names. -/
theorem get?_apply_of_ne (r : Registry) {c : Change} {name : String} (h : c.name ≠ name) :
    Keyed.get? (apply r c) name = Keyed.get? r name := by
  cases c with
  | put q => exact Keyed.get?_insert_of_ne _ h q
  | drop dropped => exact Keyed.get?_erase_of_ne _ h

theorem get?_foldl_apply_of_ne (r : Registry) {cs : List Change} {name : String}
    (h : ∀ c ∈ cs, c.name ≠ name) : Keyed.get? (cs.foldl apply r) name = Keyed.get? r name := by
  induction cs generalizing r with
  | nil => rfl
  | cons c cs ih =>
    obtain ⟨hc, hcs⟩ := List.forall_mem_cons.mp h
    rw [List.foldl_cons, ih _ hcs, get?_apply_of_ne r hc]

/-- Of programs with different names, each is found once all were put. -/
theorem get?_foldl_put (r : Registry) {ps : List Program} (hnodup : (ps.map Program.name).Nodup)
    {p : Program} (hp : p ∈ ps) :
    Keyed.get? ((ps.map put).foldl apply r) p.name = some p := by
  induction ps generalizing r with
  | nil => cases hp
  | cons q ps ih =>
    obtain ⟨hq, hnodup⟩ := List.nodup_cons.mp hnodup
    rw [List.map_cons, List.foldl_cons]
    rcases List.mem_cons.mp hp with rfl | hp
    · -- The programs that follow have other names.
      have hothers : ∀ c ∈ ps.map put, c.name ≠ p.name := by
        intro c hc hname
        obtain ⟨q, hmem, rfl⟩ := List.mem_map.mp hc
        exact hq (List.mem_map.mpr ⟨q, hmem, hname⟩)
      rw [get?_foldl_apply_of_ne _ hothers]
      exact Keyed.get?_insert_self _ _ _
    · exact ih _ hnodup hp

/-- What stands under a name is what is found there once all changes were made. -/
theorem get?_foldl_apply (cs : List Change) (name : String) (p : Program) :
    Keyed.get? (cs.foldl apply []) name = some p ↔ Stands cs name p := by
  induction cs using List.reverseRecOn with
  | nil =>
    refine iff_of_false nofun ?_
    rintro ⟨before, after, hcs, -⟩
    cases before <;> cases hcs
  | append_singleton cs c ih =>
    rw [List.foldl_append, stands_append, ← ih]
    change Keyed.get? (apply _ c) name = some p ↔ _
    by_cases hname : c.name = name
    · subst hname
      cases c with
      | put q =>
        rw [apply, name, Keyed.get?_insert_self]
        constructor
        · intro hq
          cases hq
          exact .inl ⟨rfl, rfl⟩
        · rintro (⟨hq, -⟩ | ⟨hne, -⟩)
          · cases hq
            rfl
          · exact absurd rfl hne
      | drop dropped =>
        rw [apply, name, Keyed.get?_erase_self]
        refine iff_of_false nofun ?_
        rintro (⟨hdrop, -⟩ | ⟨hne, -⟩)
        · cases hdrop
        · exact hne rfl
    · rw [get?_apply_of_ne _ hname]
      refine ⟨fun h => .inr ⟨hname, h⟩, ?_⟩
      rintro (⟨rfl, hp⟩ | ⟨-, h⟩)
      · exact absurd hp hname
      · exact h

theorem sorted_foldl_apply (cs : List Change) {r : Registry} (hr : Keyed.Sorted r) :
    Keyed.Sorted (cs.foldl apply r) := by
  induction cs generalizing r with
  | nil => exact hr
  | cons c cs ih =>
    apply ih
    cases c with
    | put p => exact hr.insert p.name p
    | drop name => exact hr.erase name

end Change

/-- What a registry is after some changes were made to it. -/
structure Registry.Records (cs : List Change) (r : Registry) : Prop where
  /-- Under each name the program that was put there last and not dropped since, if there is one. -/
  held : ∀ name p, r.program name = .ok p ↔ Change.Stands cs name p
  /-- Every program passes its check and stands under its own name. -/
  sound : ∀ name p, r.program name = .ok p → p.check = .ok () ∧ p.name = name
  /-- The names are in increasing order, so that none is there twice. -/
  sorted : r.programs.Pairwise fun a b => Text.before a b = true
  listed : ∀ name, name ∈ r.programs ↔ ∃ p, r.program name = .ok p

theorem Registry.records_foldl_apply {cs : List Change} (hcs : ∀ p, .put p ∈ cs → p.check = .ok ()) :
    Registry.Records cs (cs.foldl Change.apply []) where
  held name p := (Registry.program_eq_ok_iff _ name p).trans (Change.get?_foldl_apply cs name p)
  sound name p h := by
    rw [Registry.program_eq_ok_iff, Change.get?_foldl_apply] at h
    obtain ⟨before, after, rfl, hname, -⟩ := h
    exact ⟨hcs p (List.mem_append_right _ List.mem_cons_self), hname⟩
  sorted := Change.sorted_foldl_apply cs .nil
  listed name := by
    simp only [Registry.program_eq_ok_iff]
    exact Keyed.mem_keys_iff

namespace Service

variable {σ : Type} {s s' : Service σ}

/-- A program is registered exactly if it passes its check. -/
theorem register_cases (p : Option Program) (s : Service σ) :
    (∃ q s', p = some q ∧ q.check = .ok () ∧ s.register p = .ok s' ∧
      s'.registry = Change.apply s.registry (.put q)) ∨
    ((∀ q, p = some q → q.check ≠ .ok ()) ∧ ∃ f, s.register p = .error f) := by
  cases p with
  | none => exact .inr ⟨nofun, _, rfl⟩
  | some q =>
    cases hcheck : q.check with
    | error e =>
      refine .inr ⟨?_, Registry.registerFault e, ?_⟩
      · intro q' hq'
        rw [← Option.some.inj hq', hcheck]
        nofun
      · simp only [register, Registry.register, hcheck]
        rfl
    | ok u =>
      have hregister : s.registry.register (some q) = .ok (Change.apply s.registry (.put q)) := by
        simp only [Registry.register, hcheck]
        rfl
      cases hs : s.register (some q) with
      | error f =>
        unfold register at hs
        rw [hregister] at hs
        cases hs
      | ok s' =>
        obtain ⟨r, hr, hs'⟩ := map_eq_ok hs
        cases hregister.symm.trans hr
        exact .inl ⟨q, s', rfl, hcheck, rfl, by rw [← hs']; rfl⟩

theorem registerAll_of_checked {ps : List Program} (h : ∀ p ∈ ps, p.check = .ok ()) (s : Service σ) :
    (s.registerAll ps).2 = none ∧
      (s.registerAll ps).1.registry = (ps.map Change.put).foldl Change.apply s.registry := by
  induction ps generalizing s with
  | nil => exact ⟨rfl, rfl⟩
  | cons p ps ih =>
    obtain ⟨hp, hps⟩ := List.forall_mem_cons.mp h
    rcases register_cases (some p) s with ⟨q, s', hq, -, hregister, hregistry⟩ | ⟨hfails, -⟩
    · cases hq
      rw [registerAll, hregister, List.map_cons, List.foldl_cons, ← hregistry]
      exact ih hps s'
    · exact absurd hp (hfails p rfl)

end Service

/-- What is done to a service about its programs. Files are as they are at the time. -/
inductive Operation
  | register (p : Option Program)
  | unregister (name : String)
  | loadFile (fs : Files) (path : String)
  /-- A file has changed in a directory that is watched. -/
  | reload (fs : Files) (dir path : String)
  | loadDir (fs : Files) (dir : String)

namespace Operation

/-- Puts what was found in place, and nothing after an error. -/
def puts {ε : Type} : Except ε (List Program) → List Change
  | .ok ps => ps.map .put
  | .error _ => []

/-- The program of a file, if it compiles. -/
def compiled (fs : Files) (path : String) : List Change :=
  puts ((Source.parseFile fs path).map ([·]))

/-- What an operation changes. -/
def changes : Operation → List Change
  | .register p => puts ((Program.check? p).map fun _ => p.toList)
  | .unregister name => [.drop name]
  | .loadFile fs path => compiled fs path
  | .reload fs dir path => ((Watch.nameIn? dir path).filter Source.isProgramFile).elim [] (compiled fs)
  | .loadDir fs dir => puts (Source.loadDir fs dir)

variable {σ : Type}

/-- The service that a call gives, or as it was with the error. -/
def settled (s : Service σ) : Except Service.LoadError (Service σ) → Service σ × Option Service.LoadError
  | .ok s' => (s', none)
  | .error e => (s, some e)

/-- What a change of a file has led to. Other files are none of the watcher's business. -/
def noticed (s : Service σ) : Option (Service σ × Reload) → Service σ × Option Service.LoadError
  | some (s', .loaded _ _) => (s', none)
  | some (s', .failed _ e) => (s', some e)
  | none => (s, none)

/-- Carries an operation out: the service afterwards, and the error if there is one. -/
def run (s : Service σ) : Operation → Service σ × Option Service.LoadError
  | .register p => settled s ((s.register p).mapError .register)
  | .unregister name => ({ s with registry := s.registry.unregister name }, none)
  | .loadFile fs path => settled s ((s.loadFile fs path).map Prod.fst)
  | .reload fs dir path => noticed s (Watch.reload? fs dir path s)
  | .loadDir fs dir => s.loadPrograms fs dir

/-- The service after operations that were carried out in turn. -/
def runAll (s : Service σ) (ops : List Operation) : Service σ := ops.foldl (fun s op => (op.run s).1) s

theorem mem_puts {ε : Type} {found : Except ε (List Program)} {p : Program} :
    .put p ∈ puts found ↔ ∃ ps, found = .ok ps ∧ p ∈ ps := by
  cases found with
  | error e => exact iff_of_false nofun nofun
  | ok ps => simp [puts]

theorem check_of_mem_compiled {fs : Files} {path : String} {p : Program}
    (h : .put p ∈ compiled fs path) : p.check = .ok () := by
  obtain ⟨ps, hps, hp⟩ := mem_puts.mp h
  obtain ⟨q, hq, rfl⟩ := map_eq_ok hps
  cases List.mem_singleton.mp hp
  exact Source.check_of_parseFile hq

theorem check_of_loadDir {fs : Files} {dir : String} {ps : List Program}
    (h : Source.loadDir fs dir = .ok ps) : ∀ p ∈ ps, p.check = .ok () := by
  unfold Source.loadDir at h
  split at h
  · cases h
  · next names _ =>
    obtain ⟨hfiles, -, -⟩ := Source.parseFiles_eq_ok h
    intro p hp
    obtain ⟨i, hi, rfl⟩ := List.mem_iff_getElem.mp hp
    exact Source.check_of_parseFile (hfiles.get (hfiles.length_eq ▸ hi) hi)

/-- Only programs that pass their check are ever put into a registry. -/
theorem check_of_mem_changes {op : Operation} {p : Program} (h : .put p ∈ op.changes) :
    p.check = .ok () := by
  cases op with
  | register q =>
    obtain ⟨ps, hps, hp⟩ := mem_puts.mp h
    obtain ⟨u, hcheck, rfl⟩ := map_eq_ok hps
    cases Option.mem_toList.mp hp
    exact hcheck
  | unregister name => cases List.mem_singleton.mp h
  | loadFile fs path => exact check_of_mem_compiled h
  | reload fs dir path =>
    rw [changes] at h
    cases hfile : (Watch.nameIn? dir path).filter Source.isProgramFile with
    | none =>
      rw [hfile] at h
      cases h
    | some file =>
      rw [hfile] at h
      exact check_of_mem_compiled h
  | loadDir fs dir =>
    obtain ⟨ps, hps, hp⟩ := mem_puts.mp h
    exact check_of_loadDir hps p hp

theorem loadFile_cases (fs : Files) (path : String) (s : Service σ) :
    (∃ s' p, s.loadFile fs path = .ok (s', p) ∧
      s'.registry = (compiled fs path).foldl Change.apply s.registry) ∨
    (∃ e, s.loadFile fs path = .error e ∧ compiled fs path = []) := by
  unfold Service.loadFile compiled
  cases hparse : Source.parseFile fs path with
  | error e => exact .inr ⟨.source e, rfl, rfl⟩
  | ok p =>
    rcases s.register_cases (some p) with ⟨q, s', hq, -, hregister, hregistry⟩ | ⟨hfails, -⟩
    · cases hq
      refine .inl ⟨s', p, ?_, hregistry⟩
      simp only [Except.mapError, bind, Except.bind, hregister]
      rfl
    · exact absurd (Source.check_of_parseFile hparse) (hfails p rfl)

theorem loadPrograms_cases (fs : Files) (dir : String) (s : Service σ) :
    (∃ ps s', Source.loadDir fs dir = .ok ps ∧ s.loadPrograms fs dir = (s', none) ∧
      s'.registry = (ps.map Change.put).foldl Change.apply s.registry) ∨
    (∃ e, Source.loadDir fs dir = .error e ∧ s.loadPrograms fs dir = (s, some (.source e))) := by
  cases hload : Source.loadDir fs dir with
  | error e => exact .inr ⟨e, rfl, by rw [Service.loadPrograms, hload]⟩
  | ok ps =>
    -- The registrations in turn all succeed, since the compiler has handed out the programs.
    obtain ⟨hfault, hregistry⟩ := s.registerAll_of_checked (check_of_loadDir hload)
    obtain ⟨s', hall⟩ : ∃ s', s.registerAll ps = (s', none) := ⟨_, Prod.ext rfl hfault⟩
    rw [hall] at hregistry
    refine .inl ⟨ps, s'.logged [⟨.info, "programs loaded",
      [("dir", dir), ("count", toString ps.length)]⟩], rfl, ?_, hregistry⟩
    rw [Service.loadPrograms, hload]
    simp only [hall]

/-- A change of a file that the watcher answers for: it is loaded as if it had been asked for. -/
theorem reload?_cases (fs : Files) (dir path : String) (s : Service σ) :
    (Watch.reload? fs dir path s = none ∧ (Watch.nameIn? dir path).filter Source.isProgramFile = none) ∨
    (∃ file, (Watch.nameIn? dir path).filter Source.isProgramFile = some file ∧
      ((∃ s' p, s.loadFile fs file = .ok (s', p) ∧ Watch.reload? fs dir path s =
          some (s'.logged [(Reload.loaded file p).entry], .loaded file p)) ∨
        (∃ e, s.loadFile fs file = .error e ∧ Watch.reload? fs dir path s =
          some (s.logged [(Reload.failed file e).entry], .failed file e)))) := by
  unfold Watch.reload?
  cases Watch.nameIn? dir path with
  | none => exact .inl ⟨rfl, rfl⟩
  | some file =>
    simp only [Option.bind_eq_bind, Option.bind_some]
    split_ifs with hfile
    · refine .inr ⟨file, by rw [Option.filter_some, if_pos hfile], ?_⟩
      cases s.loadFile fs file with
      | ok found => exact .inl ⟨found.1, found.2, rfl, rfl⟩
      | error e => exact .inr ⟨e, rfl, rfl⟩
    · exact .inl ⟨rfl, by rw [Option.filter_some, if_neg hfile]⟩

/-- Every operation makes all of its changes, or fails and makes none. -/
theorem run_cases (op : Operation) (s : Service σ) :
    (∃ s', op.run s = (s', none) ∧ s'.registry = op.changes.foldl Change.apply s.registry) ∨
    (∃ s' e, op.run s = (s', some e) ∧ op.changes = [] ∧ s'.registry = s.registry) := by
  cases op with
  | register p =>
    rcases s.register_cases p with ⟨q, s', rfl, hcheck, hregister, hregistry⟩ | ⟨hfails, f, hregister⟩
    · refine .inl ⟨s', by rw [run, hregister]; rfl, ?_⟩
      rw [changes, Program.check?, hcheck]
      exact hregistry
    · refine .inr ⟨s, .register f, by rw [run, hregister]; rfl, ?_, rfl⟩
      cases p with
      | none => rfl
      | some q =>
        rw [changes, Program.check?]
        cases hcheck : q.check with
        | error e => rfl
        | ok u => exact absurd hcheck (hfails q rfl)
  | unregister name => exact .inl ⟨_, rfl, rfl⟩
  | loadFile fs path =>
    rcases loadFile_cases fs path s with ⟨s', p, hload, hregistry⟩ | ⟨e, hload, hnothing⟩
    · exact .inl ⟨s', by rw [run, hload]; rfl, hregistry⟩
    · exact .inr ⟨s, e, by rw [run, hload]; rfl, hnothing, rfl⟩
  | reload fs dir path =>
    rw [changes, run]
    rcases reload?_cases fs dir path s with ⟨hreload, hfile⟩ | ⟨file, hfile, hloaded⟩
    · rw [hreload, hfile]
      exact .inl ⟨s, rfl, rfl⟩
    · rw [hfile, Option.elim_some]
      -- What the load did is what the reload did, and it writes its own line to the log.
      rcases loadFile_cases fs file s with ⟨s', p, hload, hregistry⟩ | ⟨e, hload, hnothing⟩ <;>
        rcases hloaded with ⟨s'', p', hload', hreload⟩ | ⟨e', hload', hreload⟩ <;>
        cases hload.symm.trans hload'
      · exact .inl ⟨s'.logged [(Reload.loaded file p).entry], by rw [hreload]; rfl, hregistry⟩
      · exact .inr ⟨s.logged [(Reload.failed file e).entry], e, by rw [hreload]; rfl, hnothing, rfl⟩
  | loadDir fs dir =>
    rw [changes]
    rcases loadPrograms_cases fs dir s with ⟨ps, s', hload, hrun, hregistry⟩ | ⟨e, hload, hrun⟩
    · exact .inl ⟨s', hrun, by rw [hload]; exact hregistry⟩
    · exact .inr ⟨s, _, hrun, by rw [hload]; rfl, rfl⟩

theorem run_registry (op : Operation) (s : Service σ) :
    (op.run s).1.registry = op.changes.foldl Change.apply s.registry := by
  rcases op.run_cases s with ⟨s', hrun, hregistry⟩ | ⟨s', e, hrun, hnothing, hregistry⟩
  · rw [hrun, hregistry]
  · rw [hrun, hnothing, hregistry]
    rfl

theorem runAll_registry (ops : List Operation) (s : Service σ) :
    (runAll s ops).registry = (ops.flatMap changes).foldl Change.apply s.registry := by
  induction ops generalizing s with
  | nil => rfl
  | cons op ops ih =>
    rw [List.flatMap_cons, List.foldl_append, ← op.run_registry s]
    exact ih _

/-- Operations that were carried out on a service without programs leave it with what they put last. -/
theorem records_runAll (pool : Pool.Lazy (Job σ)) (outside : Outside σ) (ops : List Operation) :
    Registry.Records (ops.flatMap changes) (runAll { pool, outside } ops).registry := by
  rw [runAll_registry]
  apply Registry.records_foldl_apply
  intro p hp
  obtain ⟨op, -, hput⟩ := List.mem_flatMap.mp hp
  exact check_of_mem_changes hput

end Operation

namespace Service

variable {σ : Type}

/-- A directory that can be listed is loaded whole, or not at all. -/
theorem loadPrograms_iff {fs : Files} {dir : String} {names files : List String} (s : Service σ)
    (hnames : fs.names dir = .ok names)
    (hfiles : files.Perm ((names.filter Source.isProgramFile).map (Path.join dir))) :
    (s.loadPrograms fs dir).2 = none ↔ Source.Loadable fs files := by
  rw [← Source.loadDir_eq_ok_iff hnames hfiles]
  rcases Operation.loadPrograms_cases fs dir s with ⟨ps, s', hload, hrun, -⟩ | ⟨e, hload, hrun⟩
  · exact iff_of_true (by rw [hrun]) ⟨ps, hload⟩
  · refine iff_of_false (by rw [hrun]; nofun) ?_
    rintro ⟨ps, hps⟩
    cases hload.symm.trans hps

/-- After a load, the program of each file is found under its name. -/
theorem program_of_loadPrograms {fs : Files} {dir : String} {names : List String} {s : Service σ}
    (hnames : fs.names dir = .ok names) (h : (s.loadPrograms fs dir).2 = none) {file : String}
    (hfile : file ∈ (names.filter Source.isProgramFile).map (Path.join dir)) :
    ∃ p, Source.parseFile fs file = .ok p ∧
      (s.loadPrograms fs dir).1.registry.program p.name = .ok p := by
  rcases Operation.loadPrograms_cases fs dir s with ⟨ps, s', hload, hrun, hregistry⟩ | ⟨e, -, hrun⟩
  · rw [Source.loadDir, hnames] at hload
    obtain ⟨hread, hnodup, -⟩ := Source.parseFiles_eq_ok hload
    obtain ⟨i, hi, rfl⟩ := List.mem_iff_getElem.mp ((Text.perm_sort _).mem_iff.mpr hfile)
    have hi' : i < ps.length := hread.length_eq ▸ hi
    refine ⟨ps[i], hread.get hi hi', ?_⟩
    rw [hrun, Registry.program_eq_ok_iff, hregistry]
    exact Change.get?_foldl_put s.registry hnodup (List.getElem_mem hi')
  · rw [hrun] at h
    cases h

/-- What is registered with a service, after any operations on its programs of which any may have
failed: under each name the program that was put there last and not dropped since, and every one of them
passes its check. An operation that fails changes nothing, and a directory is loaded exactly if all of
its program files compile, to programs with different names; then each of them is found. -/
theorem programs_over_history (pool : Pool.Lazy (Job σ)) (outside : Outside σ) (ops : List Operation) :
    let s := Operation.runAll { pool, outside } ops
    Registry.Records (ops.flatMap Operation.changes) s.registry ∧
    (∀ op : Operation, (op.run s).2 ≠ none → (op.run s).1.registry = s.registry) ∧
    ∀ fs dir names files, fs.names dir = .ok names →
      files.Perm ((names.filter Source.isProgramFile).map (Path.join dir)) →
      (((Operation.loadDir fs dir).run s).2 = none ↔ Source.Loadable fs files) ∧
      (((Operation.loadDir fs dir).run s).2 = none → ∀ file ∈ files, ∃ p,
        Source.parseFile fs file = .ok p ∧
          ((Operation.loadDir fs dir).run s).1.registry.program p.name = .ok p) := by
  intro s
  refine ⟨Operation.records_runAll pool outside ops, ?_, ?_⟩
  · intro op hfails
    rcases op.run_cases s with ⟨s', hrun, -⟩ | ⟨s', e, hrun, -, hregistry⟩
    · exact absurd (by rw [hrun]) hfails
    · rw [hrun, hregistry]
  · intro fs dir names files hnames hfiles
    exact ⟨s.loadPrograms_iff hnames hfiles, fun hloaded file hfile =>
      program_of_loadPrograms hnames hloaded (hfiles.mem_iff.mp hfile)⟩

end Service

end Courier
