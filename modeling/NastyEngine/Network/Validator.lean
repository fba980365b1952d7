import NastyEngine.Lib.Proc
import NastyEngine.Network.Layered

/-! Each check of the validator as a statement about the links, and the termination of the cycle search. -/

namespace NastyEngine.Network
open Lib Relation List Function

variable {links : List Link} {names : List String}

theorem checkNames_ok {out : List String} : checkNames names links = .ok out ↔
      (links.map (·.name)).Nodup ∧ (∀ l ∈ links, l.name ∉ names) ∧ out = (links.map (·.name)).reverse ++ names := by
  induction links generalizing names with
  | nil => simp [checkNames, eq_comm]
  | cons link rest ih =>
    unfold checkNames
    split
    next taken =>
      simp [taken]
    next fresh =>
      rw [ih]
      simp only [map_cons, nodup_cons, mem_cons, not_or, reverse_cons,
        append_assoc, singleton_append, forall_eq_or_imp, mem_map, not_exists, not_and]
      constructor
      · rintro ⟨unique, apart, eq⟩
        exact ⟨⟨fun l hl => (apart l hl).1, unique⟩, ⟨fresh, fun l hl => (apart l hl).2⟩, eq⟩
      · rintro ⟨⟨apart, unique⟩, ⟨-, other⟩, eq⟩
        exact ⟨unique, fun l hl => ⟨apart l hl, other l hl⟩, eq⟩

variable {members : List String}

theorem checkMembers_ok {link : String} :
    checkMembers names link members = .ok () ↔ ∀ m ∈ members, m ≠ link ∧ m ∈ names := by
  induction members with
  | nil => simp [checkMembers]
  | cons m rest ih =>
    unfold checkMembers
    split
    · simp_all
    · split
      · simp_all
      next notSelf known =>
        rw [ih]
        simp [notSelf, not_not.mp known]

theorem checkReference_ok {link : Link} :
    checkReference names link = .ok () ↔ ∀ d ∈ deps link, d ≠ link.name ∧ d ∈ names := by
  unfold checkReference deps
  cases link.kind with
  | physical => simp
  | bond | bridge => exact checkMembers_ok
  | vlan parent id | macvlan parent mode =>
    by_cases self : parent = link.name
    · simp [self]
    · by_cases known : parent ∈ names <;> simp [self, known]

theorem checkReferences_ok : checkReferences names links = .ok () ↔
      ∀ l ∈ links, ∀ d ∈ deps l, d ≠ l.name ∧ d ∈ names := by
  induction links with
  | nil => simp [checkReferences]
  | cons link rest ih =>
    rw [checkReferences, forall_mem_cons, ← ih, ← checkReference_ok]
    cases checkReference names link <;> simp [bind, Except.bind]

theorem checkAddresses_ok {addresses : List Address} :
    checkAddresses names addresses = .ok () ↔ ∀ a ∈ addresses, a.link ∈ names := by
  induction addresses with
  | nil => simp [checkAddresses]
  | cons a rest ih =>
    unfold checkAddresses
    split
    · simp_all
    next known =>
      rw [ih]
      simp [not_not.mp known]

variable {masterOf : String → Option String}

theorem checkMastersOf_ok {link : String} {next : String → Option String}
    (h : checkMastersOf link masterOf members = .ok next) :
    members.Nodup ∧ (∀ m ∈ members, masterOf m = none) ∧ ∀ m, next m = none ↔ m ∉ members ∧ masterOf m = none := by
  induction members generalizing masterOf with
  | nil =>
    obtain rfl := Except.ok.inj h
    simp
  | cons m rest ih =>
    unfold checkMastersOf at h
    split at h
    · cases h
    next free =>
      obtain ⟨unique, unowned, after⟩ := ih h
      have fresh : m ∉ rest := fun again => by
        have owned := unowned m again
        simp at owned
      refine ⟨nodup_cons.mpr ⟨fresh, unique⟩, ?_, ?_⟩
      · intro x hx
        rcases mem_cons.mp hx with rfl | hx
        · exact free
        · have different : x ≠ m := fun e => fresh (e ▸ hx)
          simpa [different] using unowned x hx
      · intro x
        rw [after, mem_cons, not_or]
        by_cases same : x = m
        · subst same
          simp
        · simp [same]

theorem checkMastersOf_accepts {link : String} (unique : members.Nodup) (free : ∀ m ∈ members, masterOf m = none) :
    ∃ next, checkMastersOf link masterOf members = .ok next := by
  induction members generalizing masterOf with
  | nil => exact ⟨_, rfl⟩
  | cons m rest ih =>
    obtain ⟨fresh, unique⟩ := nodup_cons.mp unique
    unfold checkMastersOf
    rw [free m mem_cons_self]
    refine ih unique fun x hx => ?_
    have different : x ≠ m := fun e => fresh (e ▸ hx)
    simpa [different] using free x (mem_cons_of_mem m hx)

theorem checkMasters_ok : checkMasters masterOf links = .ok () ↔ (links.flatMap fun l => l.kind.members).Nodup ∧
      ∀ m ∈ links.flatMap fun l => l.kind.members, masterOf m = none := by
  induction links generalizing masterOf with
  | nil => simp [checkMasters]
  | cons link rest ih =>
    rw [checkMasters, flatMap_cons, nodup_append]
    cases first : checkMastersOf link.name masterOf link.kind.members with
    | error e =>
      refine iff_of_false (by simp [bind, Except.bind]) fun ⟨⟨unique, _⟩, free⟩ => ?_
      obtain ⟨next, accepted⟩ :=
        checkMastersOf_accepts unique fun m hm => free m (mem_append_left _ hm)
      rw [first] at accepted
      cases accepted
    | ok next =>
      obtain ⟨unique, free, after⟩ := checkMastersOf_ok first
      refine ih.trans ?_
      grind

structure WellFormed (layered : LayeredConfig) : Prop where
  names : (layered.links.map (·.name)).Nodup
  references : ∀ l ∈ layered.links, ∀ d ∈ deps l, d ≠ l.name ∧ d ∈ layered.links.map (·.name)
  addresses : ∀ a ∈ layered.addresses, a.link ∈ layered.links.map (·.name)
  masters : (layered.links.flatMap fun l => l.kind.members).Nodup

variable {layered : LayeredConfig}

theorem validate_ok : validate layered = .ok () ↔ WellFormed layered ∧ detectCycles layered.links = .ok () := by
  unfold validate
  constructor
  · intro ok
    obtain ⟨names, named, ok⟩ := bind_ok ok
    obtain ⟨_, referenced, ok⟩ := bind_ok ok
    obtain ⟨_, addressed, ok⟩ := bind_ok ok
    obtain ⟨_, mastered, acyclic⟩ := bind_ok ok
    obtain ⟨unique, -, eq⟩ := checkNames_ok.mp named
    have known : ∀ n, n ∈ names ↔ n ∈ layered.links.map (·.name) := by
      intro n
      rw [eq]
      simp
    refine ⟨⟨unique, ?_, ?_, (checkMasters_ok.mp mastered).1⟩, acyclic⟩
    · intro l hl d hd
      have ref := checkReferences_ok.mp referenced l hl d hd
      exact ⟨ref.1, (known d).mp ref.2⟩
    · exact fun a ha => (known a.link).mp (checkAddresses_ok.mp addressed a ha)
  · rintro ⟨wf, acyclic⟩
    have known : ∀ n, n ∈ layered.links.map (·.name) → n ∈ (layered.links.map (·.name)).reverse ++ [] := by simp
    have referenced := checkReferences_ok.mpr fun l hl d hd =>
      ⟨(wf.references l hl d hd).1, known d (wf.references l hl d hd).2⟩
    have addressed := checkAddresses_ok.mpr fun a ha => known _ (wf.addresses a ha)
    have mastered := checkMasters_ok.mpr ⟨wf.masters, fun m _ => (rfl : (fun _ => none) m = none)⟩
    rw [checkNames_ok.mpr ⟨wf.names, by simp, rfl⟩]
    simp only [bind, Except.bind, referenced, addressed, mastered, acyclic]

theorem validate_wellFormed (ok : validate layered = .ok ()) : WellFormed layered :=
  (validate_ok.mp ok).1

def Extends (before after : Colors) : Prop := ∀ n, before n ≠ none → after n ≠ none

def uncolored (names : List String) (color : Colors) : Nat := names.countP fun n => (color n).isNone

theorem uncolored_extends {before after : Colors}
    (extended : Extends before after) : uncolored names after ≤ uncolored names before := by
  refine countP_mono_left fun n _ fresh => ?_
  by_contra colored
  rw [Option.isNone_iff_eq_none] at fresh colored
  exact extended n colored fresh

theorem extends_update (color : Colors) (node : String) (c : Color) : Extends color (update color node (some c)) := by
  intro n colored
  by_cases same : n = node
  · subst same
    simp
  · simpa [same] using colored

theorem uncolored_enter {color : Colors} {node : String} (c : Color)
    (declared : node ∈ names) (fresh : color node = none) :
    uncolored names (update color node (some c)) < uncolored names color := by
  induction names with
  | nil => cases declared
  | cons n rest ih =>
    have shrinks := @uncolored_extends rest _ _ (extends_update color node c)
    unfold uncolored at ih shrinks ⊢
    by_cases same : n = node
    · subst same
      simp only [countP_cons, update_self, fresh, Option.isNone_some,
        Option.isNone_none, Bool.false_eq_true, if_true, if_false]
      omega
    · have later := ih ((mem_cons.mp declared).resolve_left (Ne.symm same))
      simp only [countP_cons, update_of_ne same]
      omega

def Follows (byName : String → Option Link) (node dep : String) : Prop :=
  ∃ link, byName node = some link ∧ dep ∈ deps link

/-- Colours with which `nodes` may be searched: no endless path leaves a black node, and every gray
node leads to each of `nodes`. -/
structure Underway (byName : String → Option Link) (color : Colors) (nodes : List String) : Prop where
  black : ∀ n, color n = some .black → Acc (flip (Follows byName)) n
  gray : ∀ g, color g = some .gray → ∀ n ∈ nodes, TransGen (Follows byName) g n

structure Blackened (byName : String → Option Link) (nodes : List String) (before after : Colors) : Prop where
  extended : Extends before after
  kept : ∀ n, before n = some .black → after n = some .black
  gray : ∀ n, after n = some .gray → before n = some .gray
  black : ∀ n, after n = some .black → Acc (flip (Follows byName)) n
  done : ∀ n ∈ nodes, after n = some .black

def Searched (byName : String → Option Link) (nodes : List String) (before : Colors) :
    Option (Except String Colors) → Prop
  | some (.ok after) => Blackened byName nodes before after
  | some (.error _) => ∃ n, TransGen (Follows byName) n n
  | none => False

section
variable {byName : String → Option Link} {color mid : Colors} {node : String} {nodes : List String}

theorem visitEach_searched {visit : String → Colors → Option (Except String Colors)} {fuel : Nat}
    (each : ∀ node color, uncolored names color < fuel → Underway byName color [node] →
      Searched byName [node] color (visit node color))
    (enough : uncolored names color < fuel) (underway : Underway byName color nodes) :
    Searched byName nodes color (visitEach visit nodes color) := by
  induction nodes generalizing color with
  | nil => exact ⟨fun _ => id, fun _ => id, fun _ => id, underway.black, by simp⟩
  | cons node rest ih =>
    have first := each node color enough ⟨underway.black, fun g hg n hn => underway.gray g hg n (by simp_all)⟩
    unfold visitEach
    cases visited : visit node color with
    | none => exact (visited ▸ first : Searched byName [node] color none)
    | some result =>
      rw [visited] at first
      cases result with
      | error e => exact first
      | ok mid =>
        have later := ih (Nat.lt_of_le_of_lt (uncolored_extends first.extended) enough)
          ⟨first.black, fun g hg n hn => underway.gray g (first.gray g hg) n (mem_cons_of_mem _ hn)⟩
        dsimp only
        cases visited' : visitEach visit rest mid with
        | none => exact (visited' ▸ later : Searched byName rest mid none)
        | some result =>
          rw [visited'] at later
          cases result with
          | error e => exact later
          | ok after =>
            refine ⟨fun n hn => later.extended n (first.extended n hn), fun n hn => later.kept n (first.kept n hn),
              fun n hn => first.gray n (later.gray n hn), later.black, ?_⟩
            exact forall_mem_cons.mpr ⟨later.kept node (first.done node (by simp)), later.done⟩

theorem Underway.enter (underway : Underway byName color [node]) (edges : ∀ d ∈ nodes, Follows byName node d) :
    Underway byName (update color node (some .gray)) nodes := by
  refine ⟨fun n hn => ?_, fun g hg d hd => ?_⟩
  · by_cases same : n = node
    · simp [same] at hn
    · exact underway.black n (by simpa [same] using hn)
  · by_cases same : g = node
    · exact same ▸ .single (edges d hd)
    · exact .tail (underway.gray g (by simpa [same] using hg) node (by simp)) (edges d hd)

theorem Blackened.leave (searched : Blackened byName nodes (update color node (some .gray)) mid)
    (all : ∀ d, Follows byName node d → d ∈ nodes) :
    Blackened byName [node] color (update mid node (some .black)) := by
  obtain ⟨extended, kept, gray, black, done⟩ := searched
  refine ⟨fun n hn => extends_update mid node .black n (extended n (extends_update color node .gray n hn)),
    fun n hn => ?_, fun n hn => ?_, fun n hn => ?_, by simp⟩ <;> by_cases same : n = node
  · simp [same]
  · simpa [same] using kept n (by simpa [same] using hn)
  · simp [same] at hn
  · simpa [same] using gray n (by simpa [same] using hn)
  · exact same ▸ .intro node fun d hd => black d (done d (all d hd))
  · exact black n (by simpa [same] using hn)

theorem visitForCycles_searched {links : List Link} (fuel : Nat) (node : String) (color : Colors)
    (enough : uncolored (links.map (·.name)) color < fuel) (underway : Underway (linkByName links) color [node]) :
    Searched (linkByName links) [node] color (visitForCycles (linkByName links) fuel node color) := by
  induction fuel generalizing node color with
  | zero => cases enough
  | succ fuel ih =>
    unfold visitForCycles
    cases seen : color node with
    | some c =>
      cases c with
      | black => exact ⟨fun _ => id, fun _ => id, fun _ => id, underway.black, by simp [seen]⟩
      | gray => exact ⟨node, underway.gray node seen node (by simp)⟩
    | none =>
      -- a node without a link has no dependencies, so only declared nodes recurse
      cases declared : linkByName links node with
      | none =>
        have entered := underway.enter (forall_mem_nil _)
        exact .leave ⟨fun _ => id, fun _ => id, fun _ => id, entered.black, forall_mem_nil _⟩
          fun d ⟨_, hit, _⟩ => by simp [declared] at hit
      | some link =>
        have named : node ∈ links.map (·.name) := by
          obtain ⟨l, hl, eq⟩ := mem_map.mp (collect_mem declared)
          exact mem_map.mpr ⟨l, hl, congrArg Prod.fst eq⟩
        have fewer := uncolored_enter .gray named seen
        have searched := visitEach_searched ih (by omega)
          (underway.enter fun d (hd : d ∈ deps link) => ⟨link, declared, hd⟩)
        dsimp only
        cases visited : visitEach (visitForCycles (linkByName links) fuel) (deps link)
            (update color node (some .gray)) with
        | none => exact (visited ▸ searched : Searched _ _ _ none)
        | some result =>
          rw [visited] at searched
          cases result with
          | error e => exact searched
          | ok mid =>
            refine .leave searched fun d ⟨_, hit, hd⟩ => ?_
            rw [declared] at hit
            exact Option.some.inj hit ▸ hd

theorem detectCycles_searched (links : List Link) : Searched (linkByName links) (links.map (·.name)) (fun _ => none)
      (visitEach (visitForCycles (linkByName links) (links.length + 1)) (links.map (·.name)) fun _ => none) := by
  have enough : uncolored (links.map (·.name)) (fun _ => none) < links.length + 1 := by
    have bound := countP_le_length (p := fun n : String => ((none : Option Color)).isNone) (l := links.map (·.name))
    rw [length_map] at bound
    exact Nat.lt_succ_of_le bound
  exact visitEach_searched (visitForCycles_searched _) enough ⟨by simp, by simp⟩

end

/-- A member of a bond or bridge, or the parent of a VLAN or macvlan. -/
def DependsOn (links : List Link) (name dep : String) : Prop := ∃ l ∈ links, l.name = name ∧ dep ∈ deps l

theorem follows_iff (unique : (links.map (·.name)).Nodup) {node dep : String} :
    Follows (linkByName links) node dep ↔ DependsOn links node dep := by
  have keys : ((links.map fun l => (l.name, l)).map Prod.fst).Nodup := by
    simpa [comp_def] using unique
  simp only [Follows, linkByName, collect_eq_some keys, DependsOn, mem_map, Prod.mk.injEq]
  grind

def Acyclic (links : List Link) : Prop := ∀ name, ¬ TransGen (DependsOn links) name name

theorem not_cycle_of_acc {r : String → String → Prop} {n : String} (reached : Acc (flip r) n) : ¬ TransGen r n n := by
  induction reached with
  | intro n _ ih =>
    intro cycle
    obtain ⟨d, first, back⟩ := TransGen.head'_iff.mp cycle
    exact ih d first (.tail' back first)

theorem detectCycles_ok (unique : (links.map (·.name)).Nodup) : detectCycles links = .ok () ↔ Acyclic links := by
  have eq : Follows (linkByName links) = DependsOn links := by
    ext node dep
    exact follows_iff unique
  have searched := detectCycles_searched links
  unfold detectCycles
  generalize visitEach _ _ _ = out at searched
  match out, searched with
  | some (.error e), ⟨n, cycle⟩ => exact iff_of_false (by simp) fun acyclic => acyclic n (eq ▸ cycle)
  | some (.ok after), searched =>
    refine iff_of_true rfl fun n cycle => ?_
    obtain ⟨d, ⟨l, hl, named, -⟩, -⟩ := TransGen.head'_iff.mp cycle
    refine not_cycle_of_acc (searched.black n (searched.done n ?_)) (eq ▸ cycle)
    exact named ▸ mem_map_of_mem hl

/-- The validation accepts exactly the well-formed configurations without a cycle, and the search for cycles ends. -/
theorem validate_exact (layered : LayeredConfig) :
    (validate layered = .ok () ↔ WellFormed layered ∧ Acyclic layered.links) ∧
      ∃ out, visitEach (visitForCycles (linkByName layered.links) (layered.links.length + 1))
        (layered.links.map (·.name)) (fun _ => none) = some out := by
  refine ⟨validate_ok.trans (and_congr_right fun wf => detectCycles_ok wf.names), ?_⟩
  have searched := detectCycles_searched layered.links
  cases ended : visitEach (visitForCycles (linkByName layered.links) (layered.links.length + 1))
      (layered.links.map (·.name)) (fun _ => none) with
  | none => exact (ended ▸ searched : Searched _ _ _ none).elim
  | some out => exact ⟨out, rfl⟩

/-- A bond that lists one member twice. -/
def doubled : LayeredConfig :=
  { links := [{ name := "eth0" },
      { name := "bond0", kind := .bond ["eth0", "eth0"] .activeBackup false }] }

/-- A bond that lists a member twice breaks none of the stated rules and is refused. -/
theorem doubled_rejected : ((doubled.links.map (·.name)).Nodup ∧
      (∀ l ∈ doubled.links, ∀ d ∈ deps l, d ≠ l.name ∧ d ∈ doubled.links.map (·.name)) ∧
      doubled.addresses = [] ∧
      (∀ l ∈ doubled.links, ∀ k ∈ doubled.links, ∀ m ∈ l.kind.members, m ∈ k.kind.members → l = k) ∧
      Acyclic doubled.links) ∧
    validate doubled = .error "link 'eth0' is a member of both 'bond0' and 'bond0'" := by
  refine ⟨⟨by decide, by decide, rfl, by decide, (detectCycles_ok (by decide)).mp rfl⟩, rfl⟩

end NastyEngine.Network
