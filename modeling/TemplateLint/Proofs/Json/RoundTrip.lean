import TemplateLint.Proofs.Json.Literal
import TemplateLint.Value.Json.Reader

namespace TemplateLint

namespace Table

theorem insert_of_fresh {entries : Table} {key : String} (fresh : key ∉ entries.map Prod.fst)
    (v : Value) : entries.insert key v = entries ++ [(key, v)] := by
  have absent : ¬has entries key = true := by
    simp only [has, List.any_eq_true, beq_iff_eq, not_exists, not_and]
    intro e he same
    exact fresh (List.mem_map.mpr ⟨e, he, same⟩)
  rw [insert, if_neg absent]

theorem foldl_insert_of_distinct (entries : Table) {later : Table}
    (distinct : ((entries ++ later).map Prod.fst).Nodup) :
    later.foldl (fun t e => t.insert e.1 e.2) entries = entries ++ later := by
  induction later generalizing entries with
  | nil => simp
  | cons e later ih =>
    have fresh : e.1 ∉ entries.map Prod.fst := by
      rw [List.map_append, List.map_cons, List.nodup_append] at distinct
      intro found
      exact distinct.2.2 _ found _ List.mem_cons_self rfl
    rw [List.foldl_cons, insert_of_fresh fresh, ih, List.append_assoc, List.singleton_append]
    rwa [List.append_assoc]

end Table

namespace Json

/-- No reals and no moments, which can share a text with other values, and no key twice in a table. -/
inductive Exact : Value → Prop where
  | null : Exact .null
  | bool (b : Bool) : Exact (.bool b)
  | int (n : Int) : Exact (.int n)
  | str (s : String) : Exact (.str s)
  | list {vs : List Value} (each : ∀ v ∈ vs, Exact v) : Exact (.list vs)
  | table {es : Table} (distinct : (es.map Prod.fst).Nodup) (each : ∀ e ∈ es, Exact e.2) :
      Exact (.table es)

theorem Exact.texts {vs : List Value} (h : ∀ v ∈ vs, ∃ s, v = .str s) : Exact (.list vs) := by
  apply Exact.list
  intro v hv
  obtain ⟨s, rfl⟩ := h v hv
  exact .str s

theorem Exact.ofStrings (items : List String) : Exact (.ofStrings items) := by
  apply Exact.texts
  intro v hv
  obtain ⟨s, -, rfl⟩ := List.mem_map.mp hv
  exact ⟨s, rfl⟩

theorem Exact.ofOption (s : Option String) : Exact (.ofOption s) := by
  cases s with
  | none => exact .null
  | some s => exact .str s

theorem Exact.ofInt? (n : Option Int) : Exact (.ofInt? n) := by
  cases n with
  | none => exact .null
  | some n => exact .int n

theorem first_of_forall {vs : List Value} (h : ∀ v ∈ vs, v.moment? = none) :
    Value.moment?.first vs = none := by
  induction vs with
  | nil => rfl
  | cons v vs ih =>
    obtain ⟨here, later⟩ := List.forall_mem_cons.mp h
    rw [Value.moment?.first, here, Option.none_or, ih later]

theorem firstIn_of_forall {es : Table} (h : ∀ e ∈ es, e.2.moment? = none) :
    Value.moment?.firstIn es = none := by
  induction es with
  | nil => rfl
  | cons e es ih =>
    obtain ⟨here, later⟩ := List.forall_mem_cons.mp h
    rw [Value.moment?.firstIn, here, Option.none_or, ih later]

theorem Exact.moment? {v : Value} (h : Exact v) : v.moment? = none := by
  induction h with
  | list _ ih => rw [Value.moment?, first_of_forall ih]
  | table _ _ ih => rw [Value.moment?, firstIn_of_forall ih]
  | _ => rfl

mutual

def written : Value → List Token
  | .list [] => [.mark '[', .mark ']']
  | .list (v :: vs) => .mark '[' :: (written v ++ (writtenItems vs ++ [.mark ']']))
  | .table [] => [.mark '\x7b', .mark '\x7d']
  | .table ((key, v) :: es) =>
    .mark '\x7b' :: .leaf (.str key) :: .mark ':' ::
      (written v ++ (writtenMembers es ++ [.mark '\x7d']))
  | v => [.leaf v]

def writtenItems : List Value → List Token
  | [] => []
  | v :: vs => .mark ',' :: (written v ++ writtenItems vs)

def writtenMembers : List (String × Value) → List Token
  | [] => []
  | (key, v) :: es =>
    .mark ',' :: .leaf (.str key) :: .mark ':' :: (written v ++ writtenMembers es)

end

variable {rest : List Char} {ts : List Token} {depth : Nat}

def Scanned (v : Value) : Prop :=
  ∀ (depth : Nat) {rest : List Char} {ts : List Token}, Scans rest ts →
    tokens? (chars depth v ++ rest) = some (written v ++ ts)

theorem tokens?_member {v : Value} (key : String) (scanned : Scanned v) (later : Scans rest ts) :
    tokens? (string key ++ ':' :: ' ' :: (chars depth v ++ rest)) =
      some (.leaf (.str key) :: .mark ':' :: (written v ++ ts)) := by
  apply tokens?_string
  apply (Scans.mark rfl _).tokens
  rw [tokens?_space rfl]
  exact scanned depth later

theorem Scans.items {vs : List Value} (each : ∀ v ∈ vs, Scanned v) (later : Scans rest ts) :
    Scans (items depth vs ++ rest) (writtenItems vs ++ ts) := by
  induction vs with
  | nil => exact later
  | cons v vs ih =>
    obtain ⟨first, others⟩ := List.forall_mem_cons.mp each
    simp only [Json.items, writtenItems, List.cons_append, List.append_assoc]
    apply Scans.mark rfl
    apply (Scans.newline depth _).tokens
    exact first depth (ih others)

theorem Scans.members {es : Table} (each : ∀ e ∈ es, Scanned e.2) (later : Scans rest ts) :
    Scans (members depth es ++ rest) (writtenMembers es ++ ts) := by
  induction es with
  | nil => exact later
  | cons e es ih =>
    obtain ⟨key, v⟩ := e
    obtain ⟨first, others⟩ := List.forall_mem_cons.mp each
    simp only [Json.members, writtenMembers, List.cons_append, List.append_assoc, List.nil_append]
    apply Scans.mark rfl
    apply (Scans.newline depth _).tokens
    exact tokens?_member key first (ih others)

theorem scanned_of_exact {v : Value} (h : Exact v) : Scanned v := by
  intro depth rest ts later
  induction h generalizing depth rest ts with
  | null => exact tokens?_word rfl rfl later
  | bool b =>
    cases b
    · exact tokens?_word rfl rfl later
    · exact tokens?_word rfl rfl later
  | int n => exact tokens?_signed n later
  | str s => exact tokens?_string s later.tokens
  | @list vs _ ih =>
    cases vs with
    | nil => exact (Scans.mark rfl (Scans.mark rfl later.tokens).tokens).tokens
    | cons v vs =>
      obtain ⟨first, others⟩ := List.forall_mem_cons.mp ih
      simp only [chars, written, List.cons_append, List.append_assoc, List.nil_append]
      -- The first item may be a number, so that what follows it has to be known as a boundary.
      apply (Scans.mark rfl _).tokens
      apply (Scans.newline (depth + 1) _).tokens
      apply first
      apply Scans.items others
      apply Scans.newline
      exact (Scans.mark rfl later.tokens).tokens
  | @table es _ _ ih =>
    cases es with
    | nil => exact (Scans.mark rfl (Scans.mark rfl later.tokens).tokens).tokens
    | cons e es =>
      obtain ⟨key, v⟩ := e
      obtain ⟨first, others⟩ := List.forall_mem_cons.mp ih
      simp only [chars, written, List.cons_append, List.append_assoc, List.nil_append]
      apply (Scans.mark rfl _).tokens
      apply (Scans.newline (depth + 1) _).tokens
      apply tokens?_member key first
      apply Scans.members others
      apply Scans.newline
      exact (Scans.mark rfl later.tokens).tokens

def Runs (ts : List Token) (s s' : State) : Prop := ts.foldlM step s = some s'

theorem Runs.cons {t : Token} {s s₁ s₂ : State} (h : step s t = some s₁) (later : Runs ts s₁ s₂) :
    Runs (t :: ts) s s₂ := by
  rw [Runs, List.foldlM_cons, h]
  exact later

theorem Runs.append {us : List Token} {s s₁ s₂ : State} (h : Runs ts s s₁)
    (later : Runs us s₁ s₂) : Runs (ts ++ us) s s₂ := by
  rw [Runs, List.foldlM_append, h]
  exact later

def Readable (v : Value) : Prop := ∀ frames, Runs (written v) ⟨frames, .value⟩ ⟨frames, .after v⟩

theorem written_cons (v : Value) : ∃ t ts, written v = t :: ts ∧ t ≠ .mark ']' := by
  unfold written
  split <;> exact ⟨_, _, rfl, by simp⟩

theorem Readable.firstItem {v : Value} (h : Readable v) (frames : List Frame) :
    Runs (written v) ⟨frames, .firstItem⟩ ⟨.items [] :: frames, .after v⟩ := by
  obtain ⟨t, ts, starts, opening⟩ := written_cons v
  -- No value begins as a list ends.
  have same : step ⟨frames, .firstItem⟩ t = step ⟨.items [] :: frames, .value⟩ t := by
    unfold step
    split <;> simp_all
  have read := h (.items [] :: frames)
  rw [Runs, starts, List.foldlM_cons] at read ⊢
  rw [same]
  exact read

variable (frames : List Frame)

theorem Runs.items {vs : List Value} (each : ∀ v ∈ vs, Readable v) (done : List Value)
    (v : Value) : Runs (writtenItems vs ++ [.mark ']']) ⟨.items done :: frames, .after v⟩
      ⟨frames, .after (.list (done.reverse ++ v :: vs))⟩ := by
  induction vs generalizing done v with
  | nil => exact .cons rfl rfl
  | cons w vs ih =>
    obtain ⟨first, others⟩ := List.forall_mem_cons.mp each
    have whole : done.reverse ++ v :: w :: vs = (v :: done).reverse ++ w :: vs := by simp
    rw [writtenItems, List.cons_append, List.append_assoc, whole]
    apply Runs.cons rfl
    exact (first _).append (ih others (v :: done) w)

theorem Runs.members {es : Table} (each : ∀ e ∈ es, Readable e.2) (done : Table) (key : String)
    (v : Value) : Runs (writtenMembers es ++ [.mark '\x7d']) ⟨.members done key :: frames, .after v⟩
      ⟨frames, .after (.table (es.foldl (fun t e => Table.insert t e.1 e.2)
        (done.insert key v)))⟩ := by
  induction es generalizing done key v with
  | nil => exact .cons rfl rfl
  | cons e es ih =>
    obtain ⟨first, others⟩ := List.forall_mem_cons.mp each
    rw [writtenMembers, List.cons_append, List.cons_append, List.cons_append, List.append_assoc]
    apply Runs.cons rfl
    apply Runs.cons rfl
    apply Runs.cons rfl
    exact (first _).append (ih others (done.insert key v) e.1 e.2)

theorem readable_of_exact {v : Value} (h : Exact v) : Readable v := by
  induction h with
  | null => exact fun _ => rfl
  | bool b => exact fun _ => rfl
  | int n => exact fun _ => rfl
  | str s => exact fun _ => rfl
  | @list vs _ ih =>
    intro frames
    cases vs with
    | nil => rfl
    | cons v vs =>
      obtain ⟨first, others⟩ := List.forall_mem_cons.mp ih
      rw [written]
      apply Runs.cons rfl
      exact (first.firstItem frames).append (Runs.items frames others [] v)
  | @table es distinct _ ih =>
    intro frames
    cases es with
    | nil => rfl
    | cons e es =>
      obtain ⟨first, others⟩ := List.forall_mem_cons.mp ih
      -- The reader puts each key in for itself, and only distinct keys keep their entries.
      have kept := Table.foldl_insert_of_distinct [] distinct
      rw [List.nil_append, List.foldl_cons] at kept
      have members := Runs.members frames others [] e.1 e.2
      rw [kept] at members
      rw [written]
      apply Runs.cons rfl
      apply Runs.cons rfl
      apply Runs.cons rfl
      exact (first _).append members

theorem read?_render {v : Value} (h : Exact v) : read? (render v) = some v := by
  have nothing : Scans [] [] := ⟨by rw [tokens?], by simp [Boundary]⟩
  have scanned : tokens? (chars 0 v) = some (written v) := by
    simpa using scanned_of_exact h 0 nothing
  have run : (written v).foldlM step ⟨[], .value⟩ = some ⟨[], .after v⟩ := readable_of_exact h []
  rw [read?, render, String.toList_ofList, scanned, Option.bind_eq_bind, Option.bind_some,
    ofTokens?, run]
  rfl

example : render (.list [.str "\"𝄞", .int (-12)]) =
    "[\n  \"\\\"\\ud834\\udd1e\",\n  -12\n]" := by
  cbv

end Json

end TemplateLint
