import Mathlib.Data.List.Perm.Subperm
import TemplateLint.Proofs.FileTree.Links

/-!
A path that can be followed to its end is resolved to the place where it ends. Links on the way cost
one step each, so that no link is met again while what it stands for is being followed: it would
cost less than itself.
-/

namespace TemplateLint

namespace Entry

theorem exists_places_of_children {children : List (String × Entry)}
    (below : ∀ c ∈ children, ∃ places : List (List String), places.length = c.2.linkCount ∧
      ∀ names target, c.2.at? names = some (.link target) → names ∈ places) :
    ∃ places : List (List String), places.length = linkCounts children ∧
      ∀ c ∈ children, ∀ names target, c.2.at? names = some (.link target) →
        c.1 :: names ∈ places := by
  induction children with
  | nil => exact ⟨[], rfl, List.forall_mem_nil _⟩
  | cons c children ih =>
    obtain ⟨name, e⟩ := c
    obtain ⟨⟨first, hfirst, here⟩, others⟩ := List.forall_mem_cons.mp below
    obtain ⟨rest, hrest, later⟩ := ih others
    refine ⟨first.map (name :: ·) ++ rest, ?_, ?_⟩
    · rw [linkCounts, List.length_append, List.length_map, hfirst, hrest]
    · rw [List.forall_mem_cons]
      constructor
      · intro names target linked
        exact List.mem_append_left _ (List.mem_map_of_mem (here names target linked))
      · intro c hc names target linked
        exact List.mem_append_right _ (later c hc names target linked)

theorem exists_places {e : Entry} (named : e.Named) :
    ∃ places : List (List String), places.length = e.linkCount ∧
      ∀ names target, e.at? names = some (.link target) → names ∈ places := by
  induction named with
  | file bytes =>
    refine ⟨[], rfl, ?_⟩
    intro names target linked
    cases names with
    | nil => cases linked
    | cons name names => cases linked
  | link other =>
    refine ⟨[[]], rfl, ?_⟩
    intro names target linked
    cases names with
    | nil => exact List.mem_singleton_self _
    | cons name names => cases linked
  | @directory children distinct proper below ih =>
    obtain ⟨places, count, all⟩ := exists_places_of_children ih
    refine ⟨places, by rw [linkCount, count], ?_⟩
    intro names target linked
    cases names with
    | nil => cases linked
    | cons name names =>
      rw [at?_directory_cons] at linked
      obtain ⟨next, found, inside⟩ := Option.bind_eq_some_iff.mp linked
      exact all _ (mem_of_lookup found) names target inside

theorem length_le_linkCount {e : Entry} (named : e.Named) {opened : List (List String)}
    (distinct : opened.Nodup) (links : ∀ o ∈ opened, ∃ target, e.at? o = some (.link target)) :
    opened.length ≤ e.linkCount := by
  obtain ⟨places, count, all⟩ := exists_places named
  rw [← count]
  apply (List.subperm_of_subset distinct _).length_le
  intro o ho
  obtain ⟨target, linked⟩ := links o ho
  exact all o target linked

end Entry

namespace FileTree

variable {root : Entry} {here names more place : List String} {links left cost : Nat}

def Costs (root : Entry) (here names : List String) (cost : Nat) (place : List String) : Prop :=
  ∀ spare, follow root (cost + spare) here names = .ok (place, spare)

theorem costs_of_follow (h : follow root links here names = .ok (place, left)) :
    ∃ cost, links = cost + left ∧ Costs root here names cost place := by
  fun_induction follow root links here names with
  | case1 links here =>
    cases h
    exact ⟨0, (Nat.zero_add _).symm, fun spare => by rw [follow, Nat.zero_add]⟩
  | case2 links here names children holder ih =>
    obtain ⟨cost, spent, costs⟩ := ih h
    refine ⟨cost, spent, fun spare => ?_⟩
    rw [follow_itself holder]
    exact costs spare
  | case3 links here names children holder other ih =>
    obtain ⟨cost, spent, costs⟩ := ih h
    refine ⟨cost, spent, fun spare => ?_⟩
    rw [follow_up holder]
    exact costs spare
  | case4 | case5 | case8 => cases h
  | case6 here name names children holder itself up target links linked ih =>
    obtain ⟨cost, spent, costs⟩ := ih h
    refine ⟨cost + 1, by omega, fun spare => ?_⟩
    rw [Nat.add_right_comm, follow_link holder ⟨itself, up⟩ linked]
    exact costs spare
  | case7 here name names children holder itself up e links none_left some_left found ih =>
    obtain ⟨cost, spent, costs⟩ := ih h
    refine ⟨cost, spent, fun spare => ?_⟩
    rw [follow_entry holder ⟨itself, up⟩ found (unlinked_of_cases none_left some_left)]
    exact costs spare

theorem costs_unique {other : Nat} {there : List String} (h : Costs root here names cost place)
    (h' : Costs root here names other there) : cost = other ∧ place = there := by
  have same := h other
  rw [Nat.add_comm, h' cost] at same
  cases same
  exact ⟨rfl, rfl⟩

theorem costs_append (h : Costs root here (names ++ more) cost place) :
    ∃ first mid rest, cost = first + rest ∧ Costs root here names first mid ∧
      Costs root mid more rest place := by
  have whole := h 0
  rw [follow_append] at whole
  cases front : follow root (cost + 0) here names with
  | error fault => rw [front] at whole; cases whole
  | ok r =>
    obtain ⟨mid, left⟩ := r
    rw [front] at whole
    obtain ⟨first, spent, start⟩ := costs_of_follow front
    obtain ⟨rest, remaining, finish⟩ := costs_of_follow whole
    exact ⟨first, mid, rest, by omega, start, finish⟩

theorem holder_of_costs {name : String} (h : Costs root here (name :: names) cost place) :
    ∃ children, root.at? here = some (.directory children) := by
  by_contra outside
  have whole := h 0
  rw [follow_outside (not_exists.mp outside)] at whole
  cases whole

theorem costs_itself (h : Costs root here ("." :: names) cost place) :
    Costs root here names cost place := by
  obtain ⟨children, holder⟩ := holder_of_costs h
  intro spare
  rw [← h spare, follow_itself holder]

theorem costs_up (h : Costs root here (".." :: names) cost place) :
    Costs root here.dropLast names cost place := by
  obtain ⟨children, holder⟩ := holder_of_costs h
  intro spare
  rw [← h spare, follow_up holder]

section

variable {name target : String} (proper : ProperName name)

include proper

theorem costs_link (linked : root.at? (here ++ [name]) = some (.link target)) :
    Costs root here (name :: names) cost place ↔
      ∃ fewer, cost = fewer + 1 ∧
        Costs root (if isAbsolute target then [] else here) (targetNames target ++ names) fewer
          place := by
  obtain ⟨children, holder⟩ := Entry.settled_of_append (List.cons_ne_nil name []) linked
  rw [Entry.at?_snoc holder] at linked
  constructor
  · intro h
    cases cost with
    | zero =>
      have whole := h 0
      rw [follow_spent holder proper linked] at whole
      cases whole
    | succ fewer =>
      refine ⟨fewer, rfl, fun spare => ?_⟩
      rw [← h spare, Nat.add_right_comm, follow_link holder proper linked]
  · rintro ⟨fewer, rfl, h⟩ spare
    rw [Nat.add_right_comm, follow_link holder proper linked]
    exact h spare

theorem costs_entry (unlinked : ∀ target, root.at? (here ++ [name]) ≠ some (.link target))
    (h : Costs root here (name :: names) cost place) :
    Costs root (here ++ [name]) names cost place := by
  obtain ⟨children, holder⟩ := holder_of_costs h
  rw [Entry.at?_snoc holder] at unlinked
  cases found : children.lookup name with
  | none =>
    have whole := h 0
    rw [follow_missing holder proper found] at whole
    cases whole
  | some e =>
    have other : ∀ target, e ≠ .link target := fun target same => unlinked target (same ▸ found)
    intro spare
    rw [← h spare, follow_entry holder proper found other]

end

/-- The links that are being replaced, with room for one level more than there are links. Each costs
more than what is left to be followed. -/
structure Replacing (root : Entry) (cost depth : Nat) (opened : List (List String)) : Prop where
  distinct : opened.Nodup
  linked : ∀ o ∈ opened, ∃ target, root.at? o = some (.link target)
  dearer : ∀ o ∈ opened, ∃ holder name more place, o = holder ++ [name] ∧ cost < more ∧
    Costs root holder [name] more place
  room : depth + opened.length = root.linkCount + 1

namespace Replacing

variable {depth : Nat} {opened : List (List String)} {name target : String}

theorem of_le {fewer : Nat} (h : Replacing root cost depth opened) (le : fewer ≤ cost) :
    Replacing root fewer depth opened := by
  refine ⟨h.distinct, h.linked, ?_, h.room⟩
  intro o ho
  obtain ⟨holder, name, more, place, rfl, dearer, costs⟩ := h.dearer o ho
  exact ⟨holder, name, more, place, rfl, by omega, costs⟩

theorem fresh (h : Replacing root cost depth opened)
    (costs : Costs root here (name :: names) cost place) : here ++ [name] ∉ opened := by
  intro again
  obtain ⟨holder, other, more, there, same, dearer, whole⟩ := h.dearer _ again
  obtain ⟨rfl, last⟩ := List.append_inj' same rfl
  cases last
  rw [← List.singleton_append] at costs
  obtain ⟨first, mid, rest, rfl, front, -⟩ := costs_append costs
  -- The link would be met on the way that it stands for, at its own cost.
  obtain ⟨rfl, -⟩ := costs_unique front whole
  omega

theorem depth_pos (rooted : root.Rooted) (h : Replacing root cost depth opened)
    (new : here ++ [name] ∉ opened) (link : root.at? (here ++ [name]) = some (.link target)) :
    0 < depth := by
  have count := Entry.length_le_linkCount rooted.named (List.nodup_cons.mpr ⟨new, h.distinct⟩)
    (List.forall_mem_cons.mpr ⟨⟨target, link⟩, h.linked⟩)
  have room := h.room
  rw [List.length_cons] at count
  omega

theorem enter (h : Replacing root cost (depth + 1) opened) (proper : ProperName name)
    (link : root.at? (here ++ [name]) = some (.link target))
    (costs : Costs root here (name :: names) cost place) :
    ∃ first mid rest,
      Costs root (if isAbsolute target then [] else here) (targetNames target) first mid ∧
        Replacing root first depth ((here ++ [name]) :: opened) ∧
        Costs root mid names rest place ∧ Replacing root rest (depth + 1) opened := by
  -- What the link stands for costs less than the link, and so does what comes after it.
  obtain ⟨fewer, rfl, whole⟩ := (costs_link proper link).mp costs
  obtain ⟨first, mid, rest, rfl, front, back⟩ := costs_append whole
  have itself : Costs root here [name] (first + 1) mid := by
    rw [costs_link proper link, List.append_nil]
    exact ⟨first, rfl, front⟩
  refine ⟨first, mid, rest, front, ⟨?_, ?_, ?_, ?_⟩, back, h.of_le (by omega)⟩
  · exact List.nodup_cons.mpr ⟨h.fresh costs, h.distinct⟩
  · exact List.forall_mem_cons.mpr ⟨⟨target, link⟩, h.linked⟩
  · rw [List.forall_mem_cons]
    exact ⟨⟨here, name, first + 1, mid, rfl, Nat.lt_succ_self first, itself⟩,
      (h.of_le (by omega)).dearer⟩
  · have room := h.room
    rw [List.length_cons]
    omega

end Replacing

theorem resolveFrom_of_costs (rooted : root.Rooted) {depth : Nat} {opened : List (List String)}
    (replacing : Replacing root cost depth opened) (costs : Costs root here names cost place) :
    resolveFrom root depth opened here names = (place, true) := by
  fun_induction resolveFrom root depth opened here names generalizing cost place with
  | case1 depth opened here =>
    have whole := costs 0
    rw [follow] at whole
    cases whole
    rfl
  | case2 depth opened here names ih => exact ih replacing (costs_itself costs)
  | case3 depth opened here names other ih => exact ih replacing (costs_up costs)
  | case4 opened here name names itself up next target depth linked =>
    rename_i again
    exact absurd (List.contains_iff_mem.mp again) (replacing.fresh costs)
  | case5 opened here name names itself up next target depth linked fresh inner led ih =>
    rename_i later
    obtain ⟨first, mid, rest, front, within, back, beyond⟩ :=
      replacing.enter ⟨itself, up⟩ linked costs
    have same := (ih within front).symm.trans led
    cases same
    exact later beyond back
  | case6 opened here name names itself up next target depth linked fresh inner led =>
    rename_i ih
    obtain ⟨first, mid, rest, front, within, -⟩ := replacing.enter ⟨itself, up⟩ linked costs
    have same := (ih within front).symm.trans led
    cases same
  | case7 opened here name names itself up next target =>
    rename_i linked
    exact absurd (replacing.depth_pos rooted (replacing.fresh costs) linked) (Nat.lt_irrefl 0)
  | case8 opened here name names itself up next depth some_left none_left =>
    rename_i ih
    apply ih replacing
    apply costs_entry ⟨itself, up⟩ _ costs
    intro target linked
    cases depth with
    | zero => exact none_left target linked rfl
    | succ depth => exact some_left target depth linked rfl

theorem resolveFrom_of_follow (rooted : root.Rooted)
    (h : follow root links [] names = .ok (place, left)) :
    resolveFrom root (root.linkCount + 1) [] [] names = (place, true) := by
  obtain ⟨cost, -, costs⟩ := costs_of_follow h
  have nothing : Replacing root cost (root.linkCount + 1) [] :=
    ⟨List.nodup_nil, List.forall_mem_nil _, List.forall_mem_nil _, rfl⟩
  exact resolveFrom_of_costs rooted nothing costs

theorem resolve_of_straight {cwd : List String} {p : Path} (straight : root.Straight place)
    (h : resolveFrom root (root.linkCount + 1) [] [] (namesFrom cwd p) = (place, true)) :
    resolve root cwd p = .ok place := by
  rw [resolve, h, normalized_of_proper straight.proper]
  rw [← List.nil_append place] at straight
  rcases follow_of_straight linkLimit straight with found | missing | outside
  · rw [List.nil_append] at found
    rw [found]
  · rw [missing]
  · rw [outside]

theorem resolve_of_follow (rooted : root.Rooted) {cwd : List String} {p : Path}
    (h : follow root links [] (namesFrom cwd p) = .ok (place, left)) :
    resolve root cwd p = .ok place ∧ root.Straight place := by
  have led := resolveFrom_of_follow rooted h
  have straight := straight_of_resolveFrom rooted (Entry.straight_nil rooted) led
  exact ⟨resolve_of_straight straight led, straight⟩

end FileTree

end TemplateLint
