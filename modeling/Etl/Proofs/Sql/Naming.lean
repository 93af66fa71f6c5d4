import Etl.Proofs.Sql.Item

/-!
Naming as a search that goes on until a name is free. It always comes to an end, since more
candidates are left than names are taken, and what it ends with are the relation names. These are
plain words of their nodes' own, so they stand without quotes wherever they are used.
-/

namespace Etl.Sql

open Text

/-- The search for a name, which has a result only if it comes to an end. Its numbers have no bound:
a signed counter of 32 bits shows the same ones as long as fewer than `2 ^ 31` candidates are
tried. -/
inductive Search (taken : List String) (base : String) : String → Nat → String → Prop where
  | free {name : String} {number : Nat} (free : lowerAscii name ∉ taken) :
    Search taken base name number name
  /-- A name that is taken is followed by the base with the next number. -/
  | next {name result : String} {number : Nat} (used : lowerAscii name ∈ taken)
    (later : Search taken base (base ++ "_" ++ toString number) (number + 1) result) :
    Search taken base name number result

/-- A search for each node, where the names of the nodes before it are taken as well. -/
inductive SearchAll : List String → List NodeId → List (NodeId × String) → Prop where
  | nil {taken : List String} : SearchAll taken [] []
  | cons {taken : List String} {id : NodeId} {ids : List NodeId} {name : String}
    {names : List (NodeId × String)} (first : Search taken (viewName id) (viewName id) 2 name)
    (rest : SearchAll (lowerAscii name :: taken) ids names) :
    SearchAll taken (id :: ids) ((id, name) :: names)

section Search

variable {taken : List String} {base name result : String} {number : Nat}

theorem Search.unique (one : Search taken base name number result) {other : String}
    (another : Search taken base name number other) : result = other := by
  induction one with
  | free free =>
      cases another with
      | free => rfl
      | next used => exact absurd used free
  | next used _ ih =>
      cases another with
      | free free => exact absurd used free
      | next _ later => exact ih later

/-- From any candidate on, the search ends at the first one that is free. -/
theorem search_candidate {k : Nat} (free : lowerAscii (candidate base k) ∉ taken) (ahead : Nat)
    {j : Nat} (start : j + ahead = k)
    (used : ∀ i, j ≤ i → i < k → lowerAscii (candidate base i) ∈ taken) :
    Search taken base (candidate base j) (j + 2) (candidate base k) := by
  induction ahead generalizing j with
  | zero =>
      subst start
      exact .free free
  | succ ahead ih =>
      refine .next (used j (Nat.le_refl j) (by omega)) ?_
      exact ih (j := j + 1) (by omega) fun i after => used i (by omega)

theorem search_iff : Search taken base base 2 result ↔ result = freeName taken base := by
  obtain ⟨k, chosen, free, used⟩ := freeName_eq_candidate taken base
  have ends : Search taken base base 2 (freeName taken base) := by
    rw [chosen]
    exact search_candidate free k (Nat.zero_add k) fun i _ less => used i less
  constructor
  · exact fun found => found.unique ends
  · rintro rfl
    exact ends

theorem searchAll_iff {ids : List NodeId} {names : List (NodeId × String)} :
    SearchAll taken ids names ↔ names = assignNames taken ids := by
  constructor
  · intro found
    induction found with
    | nil => rfl
    | cons first _ ih =>
        obtain rfl := search_iff.mp first
        rw [ih]
        rfl
  · rintro rfl
    induction ids generalizing taken with
    | nil => exact .nil
    | cons id ids ih => exact .cons (search_iff.mpr rfl) ih

end Search

theorem candidate_cases (base : String) (k : Nat) :
    candidate base k = base ∨
      ∃ number ≥ 2, candidate base k = base ++ "_" ++ toString number := by
  cases k with
  | zero => exact .inl rfl
  | succ k => exact .inr ⟨k + 2, Nat.le_add_left 2 k, rfl⟩

theorem IsRelationName.isWord {name : String} (h : IsRelationName name) : isWord name.toList := by
  obtain ⟨rest, chars⟩ := h.marked
  have start : name.toList = 'p' :: 'w' :: '_' :: rest := chars.symm
  rw [start, Sql.isWord, ← start, List.all_eq_true.mpr h.word]
  decide

theorem IsRelationName.quoteName_eq {name : String} (h : IsRelationName name) :
    quoteName name = name := by
  rw [quoteName, if_pos h.isWord]

/-- The search for names ends for every pipeline, and only with the relation names. A node has a
name exactly if it is in the pipeline, and different nodes have names that differ, also where the
case of letters does not count. A name is that of the node, alone or with a number from two on, and
it is a plain word, so it never needs quotes. -/
theorem relationNames_total_unique (p : Pipeline) :
    (∀ names, SearchAll ((externalNames p).map lowerAscii) p.nodes.keys names ↔
        names = relationNames p) ∧
      (∀ id, (∃ name, (relationNames p).lookup id = some name) ↔ p.containsNode id) ∧
      (∀ a b x y, a ≠ b → (relationNames p).lookup a = some x →
        (relationNames p).lookup b = some y → ¬ SameName x y) ∧
      ∀ id name, (relationNames p).lookup id = some name →
        (name = viewName id ∨ ∃ number ≥ 2, name = viewName id ++ "_" ++ toString number) ∧
          isWord name.toList ∧ quoteName name = name := by
  refine ⟨fun names => searchAll_iff, fun id => ⟨?_, exists_relationName⟩, ?_, ?_⟩
  · rintro ⟨name, named⟩
    have member : id ∈ (relationNames p).map (·.1) :=
      List.mem_map_of_mem (lookup_relationNames.mp named)
    rw [relationNames, assignNames_map_fst] at member
    exact SortedMap.mem_keys.mp member
  · exact fun a b x y differ first second same => differ (eq_of_sameName first second same)
  · intro id name named
    have word := isRelationName_of_lookup named
    obtain ⟨k, rfl⟩ := exists_candidate_of_lookup named
    exact ⟨candidate_cases _ k, word.isWord, word.quoteName_eq⟩

/-- Nodes whose names are the same without their marks, one that is called like a numbered one, and
a table that is called like a view. -/
def collidingNames : Descriptor where
  id := "p"
  name := "P"
  nodes :=
    [⟨"A_b", "source-pg", "",
       .ofList [("connection", .text "dwh"), ("table", .text "dbo.PW_A_B")]⟩,
     ⟨"a-b", "transform-sql", "", .ofList []⟩, ⟨"a.b", "transform-sql", "", .ofList []⟩,
     ⟨"a_b_2", "transform-sql", "", .ofList []⟩]
  edges := []

theorem relationNames_total_unique_collidingNames :
    ∃ p, Pipeline.ofDescriptor collidingNames = .ok p ∧
      SearchAll ["pw_a_b"] ["A_b", "a-b", "a.b", "a_b_2"]
        [("A_b", "pw_A_b_2"), ("a-b", "pw_a_b_3"), ("a.b", "pw_a_b_4"),
          ("a_b_2", "pw_a_b_2_2")] ∧
      ¬ SameName "pw_A_b_2" "pw_a_b_2_2" ∧ quoteName "pw_A_b_2" = "pw_A_b_2" := by
  obtain ⟨p, built⟩ : ∃ p, Pipeline.ofDescriptor collidingNames = .ok p := ⟨_, rfl⟩
  have facts : (externalNames p).map lowerAscii = ["pw_a_b"] ∧
      p.nodes.keys = ["A_b", "a-b", "a.b", "a_b_2"] ∧
      relationNames p = [("A_b", "pw_A_b_2"), ("a-b", "pw_a_b_3"), ("a.b", "pw_a_b_4"),
        ("a_b_2", "pw_a_b_2_2")] := by
    cases built
    decide +kernel
  obtain ⟨taken, ids, names⟩ := facts
  obtain ⟨ends, -, unique, own⟩ := relationNames_total_unique p
  rw [taken, ids, names] at ends
  rw [names] at unique own
  refine ⟨p, built, (ends _).mpr rfl, ?_, ?_⟩
  · exact unique "A_b" "a_b_2" _ _ (by decide) (by decide) (by decide)
  · exact (own "A_b" "pw_A_b_2" (by decide)).2.2

end Etl.Sql
