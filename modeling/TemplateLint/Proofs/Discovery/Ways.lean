import TemplateLint.Discovery
import TemplateLint.Proofs.Except
import TemplateLint.Proofs.FileTree.Resolving

namespace TemplateLint.Discovery

open FileTree

section

variable {root e : Entry} {links left : Nat} {path start lead here names : List String}
  {name : String} {children : List (String × Entry)}

theorem isTemplateName_iff {names : List String} :
    isTemplateName names = true ↔
      (Path.absolute names).suffix = ".mako" ∨ (Path.absolute names).suffix = ".mak" := by
  simp [isTemplateName]

def Leads (root : Entry) (links : Nat) (here names : List String) : Prop :=
  ∃ place left bytes, follow root links here names = .ok (place, left) ∧
    root.at? place = some (.file bytes)

theorem isFile_iff_leads :
    isFile root [] (.absolute names) = true ↔ Leads root linkLimit [] names := by
  rw [isFile, entry?, namesFrom_absolute, Leads]
  cases follow root linkLimit [] names with
  | error fault => simp
  | ok r =>
    obtain ⟨place, left⟩ := r
    cases stands : root.at? place with
    | none => simp [stands]
    | some e => cases e <;> simp [stands]

/-- The names are a path, lengthened by a way to a template. The way goes on where `lead` leads. -/
def Found (root : Entry) (links : Nat) (path start lead names : List String) : Prop :=
  isTemplateName names = true ∧ ∃ more, names = path ++ more ∧
    (∀ name ∈ more, ProperName name) ∧ Leads root links start (lead ++ more)

theorem found_of_follow (h : follow root links start lead = .ok (here, left)) :
    Found root links path start lead names ↔ Found root left path here [] names := by
  have rest (more : List String) :
      follow root links start (lead ++ more) = follow root left here more := by
    rw [follow_append, h]
    rfl
  simp only [Found, Leads, rest, List.nil_append]

theorem not_found_of_follow {fault : AccessFault}
    (h : follow root links start lead = .error fault) : ¬ Found root links path start lead names := by
  rintro ⟨-, more, -, -, place, left, bytes, led, -⟩
  rw [follow_append, h] at led
  cases led

theorem found_file {bytes : List UInt8} (file : root.at? here = some (.file bytes)) :
    Found root links path here [] names ↔ isTemplateName names = true ∧ names = path := by
  apply and_congr_right
  intro template
  constructor
  · rintro ⟨more, rfl, -, place, left, others, led, -⟩
    cases more with
    | nil => exact List.append_nil path
    | cons name more =>
      have outside : ∀ children, root.at? here ≠ some (.directory children) := by simp [file]
      rw [List.nil_append, follow_outside outside] at led
      cases led
  · rintro rfl
    have whole : follow root links here ([] ++ []) = .ok (here, links) := by
      rw [List.append_nil, follow]
    exact ⟨[], (List.append_nil names).symm, List.forall_mem_nil _, here, links, bytes, whole, file⟩

theorem found_directory (holder : root.at? here = some (.directory children))
    (proper : ∀ c ∈ children, ProperName c.1) :
    Found root links path here [] names ↔
      ∃ c ∈ children, Found root links (path ++ [c.1]) here [c.1] names := by
  constructor
  · rintro ⟨template, more, rfl, okay, place, left, bytes, led, file⟩
    cases more with
    | nil =>
      rw [List.nil_append, follow] at led
      cases led
      rw [holder] at file
      cases file
    | cons name more =>
      obtain ⟨itself, others⟩ := List.forall_mem_cons.mp okay
      cases found : children.lookup name with
      | none =>
        rw [List.nil_append, follow_missing holder itself found] at led
        cases led
      | some e =>
        refine ⟨(name, e), Entry.mem_of_lookup found, template, more, ?_, others, place, left,
          bytes, led, file⟩
        rw [List.append_assoc, List.singleton_append]
  · rintro ⟨c, hc, template, more, rfl, others, leads⟩
    refine ⟨template, c.1 :: more, ?_, List.forall_mem_cons.mpr ⟨proper c hc, others⟩, leads⟩
    rw [List.append_assoc, List.singleton_append]

theorem mem_collectAll :
    names ∈ collectAll root links path here children ↔
      ∃ c ∈ children, names ∈ collect root links (path ++ [c.1]) (here ++ [c.1]) c.2 := by
  induction children with
  | nil => simp [collectAll]
  | cons c children ih =>
    obtain ⟨name, e⟩ := c
    simp [collectAll, ih]

def Complete (root : Entry) (links : Nat) (here : List String) (e : Entry) : Prop :=
  ∀ path names, names ∈ collect root links path here e ↔ Found root links path here [] names

theorem mem_collect_link {target : String} (rooted : root.Rooted)
    (holder : root.at? here = some (.directory children)) (proper : ProperName name)
    (child : children.lookup name = some (.link target))
    (fewer : ∀ left < links, ∀ place e, root.at? place = some e → (∀ target, e ≠ .link target) →
      Complete root left place e) :
    names ∈ collect root links (path ++ [name]) (here ++ [name]) (.link target) ↔
      Found root links (path ++ [name]) here [name] names := by
  cases links with
  | zero =>
    rw [collect]
    exact iff_of_false List.not_mem_nil (not_found_of_follow (follow_spent holder proper child))
  | succ links =>
    have settled : root.Settled (if isAbsolute target then [] else here) := by
      split
      · exact Entry.settled_nil rooted
      · exact ⟨_, holder, Entry.directory_ne_link children⟩
    have step : follow root (links + 1) here [name] =
        follow root links (if isAbsolute target then [] else here) (targetNames target) := by
      rw [follow_link holder proper child, List.append_nil]
    rw [collect, List.dropLast_concat]
    cases led : follow root links (if isAbsolute target then [] else here)
        (targetNames target) with
    | error fault =>
      rw [led] at step
      exact iff_of_false List.not_mem_nil (not_found_of_follow step)
    | ok r =>
      obtain ⟨place, left⟩ := r
      rw [led] at step
      obtain ⟨next, stands, unlinked⟩ := settled_of_follow rooted settled led
      obtain ⟨cost, spent, -⟩ := costs_of_follow led
      rw [found_of_follow step]
      -- The links on the way to the target are spent, so that fewer are left below it.
      have enough : min left links = left := Nat.min_eq_left (by omega)
      have complete := fewer left (by omega) place next stands unlinked (path ++ [name]) names
      simp only [stands, enough]
      cases next with
      | link other => exact absurd rfl (unlinked other)
      | file bytes => exact complete
      | directory children => exact complete

theorem mem_collect_entry (holder : root.at? here = some (.directory children))
    (proper : ProperName name) (child : children.lookup name = some e)
    (unlinked : ∀ target, e ≠ .link target) (complete : Complete root links (here ++ [name]) e) :
    names ∈ collect root links (path ++ [name]) (here ++ [name]) e ↔
      Found root links (path ++ [name]) here [name] names := by
  have step : follow root links here [name] = .ok (here ++ [name], links) := by
    rw [follow_entry holder proper child unlinked, follow]
  rw [found_of_follow step]
  exact complete (path ++ [name]) names

theorem complete_of_at? (rooted : root.Rooted) (links : Nat) {e : Entry}
    (stands : root.at? here = some e) (unlinked : ∀ target, e ≠ .link target) :
    Complete root links here e := by
  -- On the links that are left, and for each on the entry.
  induction links using Nat.strongRecOn generalizing here e with
  | ind links fewer =>
    have named := Entry.named_at? rooted.named stands
    induction named generalizing here with
    | link target => exact absurd rfl (unlinked target)
    | file bytes =>
      intro path names
      rw [found_file stands, collect]
      split
      · next template =>
        rw [List.mem_singleton, iff_and_self]
        rintro rfl
        exact template
      · next other =>
        apply iff_of_false List.not_mem_nil
        rintro ⟨template, rfl⟩
        exact other template
    | @directory children distinct proper below ih =>
      intro path names
      rw [collect, mem_collectAll, found_directory stands proper]
      have each (c) (hc : c ∈ children) :
          names ∈ collect root links (path ++ [c.1]) (here ++ [c.1]) c.2 ↔
            Found root links (path ++ [c.1]) here [c.1] names := by
        have child := Entry.lookup_of_mem distinct hc
        by_cases link : ∃ target, c.2 = .link target
        · obtain ⟨target, same⟩ := link
          rw [same] at child ⊢
          apply mem_collect_link rooted stands (proper c hc) child
          intro left less place e stands unlinked
          exact fewer left less stands unlinked
        · have unlinked : ∀ target, c.2 ≠ .link target := not_exists.mp link
          apply mem_collect_entry stands (proper c hc) child unlinked
          exact ih c hc ((Entry.at?_snoc stands c.1).trans child) unlinked
      exact exists_congr fun c => and_congr_right fun hc => each c hc

end

theorem mem_templatesBelow {site : Site} (rooted : site.root.Rooted) {p : Path}
    {top : List String} (h : resolve site p = .ok (.absolute top)) :
    ∃ found, templatesBelow site p = .ok found ∧ ∀ file, file ∈ found ↔
      ∃ more, file = .absolute (top ++ more) ∧ (∀ name ∈ more, ProperName name) ∧
        isFile site.root [] file = true ∧ (file.suffix = ".mako" ∨ file.suffix = ".mak") := by
  have place : (Path.absolute top).parts = top := rfl
  have way (file : Path) : (∃ names, Found site.root linkLimit top [] top names ∧
        Path.absolute names = file) ↔
      ∃ more, file = .absolute (top ++ more) ∧ (∀ name ∈ more, ProperName name) ∧
        isFile site.root [] file = true ∧ (file.suffix = ".mako" ∨ file.suffix = ".mak") := by
    constructor
    · rintro ⟨names, ⟨template, more, rfl, proper, leads⟩, rfl⟩
      exact ⟨more, rfl, proper, isFile_iff_leads.mpr leads, isTemplateName_iff.mp template⟩
    · rintro ⟨more, rfl, proper, regular, template⟩
      exact ⟨top ++ more, ⟨isTemplateName_iff.mpr template, more, rfl, proper,
        isFile_iff_leads.mp regular⟩, rfl⟩
  rw [templatesBelow, h]
  simp only [ok_bind, place]
  split
  · next here left led =>
    obtain ⟨e, stands, unlinked⟩ := settled_of_follow rooted (Entry.settled_nil rooted) led
    simp only [stands]
    refine ⟨_, rfl, ?_⟩
    intro file
    rw [← way, List.mem_map]
    apply exists_congr
    intro names
    rw [complete_of_at? rooted left stands unlinked, found_of_follow led]
  · next fault led =>
    refine ⟨_, rfl, ?_⟩
    intro file
    rw [← way]
    apply iff_of_false List.not_mem_nil
    rintro ⟨names, found, -⟩
    exact not_found_of_follow led found

end TemplateLint.Discovery
