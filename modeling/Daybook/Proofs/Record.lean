import Daybook.Value
import Mathlib.Data.List.Induction
import Mathlib.Data.List.Nodup

/-!
Contract: what a record holds after others were merged into it.

Owns:
- when a name has a value, and which field it comes from;
- look-up in records with distinct names;
- the value of every name after a merge;
- merging fields of new names, which come after the old ones;
- the order of the names after a merge, and merging what was merged before.

Does not own: which values a name may have.
-/

namespace Daybook.Record

theorem get?_eq_none_iff
    {fields : Record}
    {name : Text} :
    get? fields name = none ↔ name ∉ names fields := by
  unfold get? names
  rw [List.lookup_eq_none_iff, List.mem_map]
  simp only [bne_iff_ne, ne_eq, not_exists, not_and]
  exact forall₂_congr fun _ _ => not_congr eq_comm

/-- What is looked up in a list of named things is in it under its name. -/
theorem mem_of_lookup
    {α : Type}
    {fields : List (Text × α)}
    {name : Text}
    {found : α}
    (isFound : List.lookup name fields = some found) :
    (name, found) ∈ fields := by
  obtain ⟨before, after, whole, -⟩ := List.lookup_eq_some_iff.1 isFound
  rw [whole]
  exact List.mem_append_right _ List.mem_cons_self

theorem mem_of_get?
    {fields : Record}
    {name : Text}
    {value : Value}
    (found : get? fields name = some value) :
    (name, value) ∈ fields :=
  mem_of_lookup found

theorem mem_names_of_mem
    {fields : Record}
    {name : Text}
    {value : Value}
    (member : (name, value) ∈ fields) :
    name ∈ names fields :=
  List.mem_map_of_mem member

/-- Every name of a record has a value. -/
theorem exists_get?_of_mem_names
    {fields : Record}
    {name : Text}
    (member : name ∈ names fields) :
    ∃ value, get? fields name = some value := by
  cases found : get? fields name with
  | none => exact absurd member (get?_eq_none_iff.1 found)
  | some value => exact ⟨value, rfl⟩

/-- After a merge a name has the value that was given last, or its old one if none was. -/
theorem get?_merge
    (fields newer : Record)
    (name : Text) :
    get? (merge fields newer) name = (get? newer.reverse name).or (get? fields name) := by
  induction newer generalizing fields with
  | nil => rfl
  | cons field rest inductionHypothesis =>
    obtain ⟨given, value⟩ := field
    have step : merge fields ((given, value) :: rest) = merge (set fields given value) rest := rfl
    have split :
        get? ((given, value) :: rest).reverse name =
          (get? rest.reverse name).or (get? [(given, value)] name) := by
      unfold get?
      rw [List.reverse_cons, List.lookup_append]
    rw [step, inductionHypothesis, split, Option.or_assoc]
    by_cases same : name = given
    · subst same
      have own : get? [(name, value)] name = some value := by simp [get?]
      rw [get?_set_self, own, Option.some_or]
    · have other : get? [(given, value)] name = none := by simp [get?_eq_none_iff, names, same]
      rw [get?_set_of_ne fields value same, other, Option.none_or]

/-- The value of a name after a merge was given, or it is the old one. -/
theorem mem_or_get?_of_get?_merge
    {fields newer : Record}
    {name : Text}
    {value : Value}
    (found : get? (merge fields newer) name = some value) :
    (name, value) ∈ newer ∨ get? fields name = some value := by
  rw [get?_merge, Option.or_eq_some_iff] at found
  obtain given | ⟨-, old⟩ := found
  · exact .inl (List.mem_reverse.1 (mem_of_get? given))
  · exact .inr old

/-- In a record with distinct names every field is found under its name. -/
theorem get?_eq_some_iff_mem
    {fields : Record}
    (distinct : (names fields).Nodup)
    {name : Text}
    {value : Value} :
    get? fields name = some value ↔ (name, value) ∈ fields := by
  refine ⟨mem_of_get?, fun member => ?_⟩
  obtain ⟨found, isFound⟩ := exists_get?_of_mem_names (mem_names_of_mem member)
  cases List.inj_on_of_nodup_map distinct (mem_of_get? isFound) member rfl
  exact isFound

/-- The order of a record with distinct names makes no difference to what is found in it. -/
theorem get?_reverse
    {fields : Record}
    (distinct : (names fields).Nodup)
    (name : Text) :
    get? fields.reverse name = get? fields name := by
  have distinctReverse : (names fields.reverse).Nodup := by
    rw [names, List.map_reverse, List.nodup_reverse]
    exact distinct
  refine Option.ext fun value => ?_
  rw [get?_eq_some_iff_mem distinctReverse, get?_eq_some_iff_mem distinct, List.mem_reverse]

/-- No merge takes a name away. -/
theorem exists_get?_merge_of_mem_names
    {fields : Record}
    {name : Text}
    (newer : Record)
    (member : name ∈ names fields) :
    ∃ value, get? (merge fields newer) name = some value := by
  obtain ⟨old, found⟩ := exists_get?_of_mem_names member
  rw [get?_merge, found, Option.or_some]
  exact ⟨_, rfl⟩

/-- A new name comes after all others. -/
theorem set_of_notMem
    {fields : Record}
    {name : Text}
    (value : Value)
    (isNew : name ∉ names fields) :
    set fields name value = fields ++ [(name, value)] := by
  induction fields with
  | nil => rfl
  | cons field rest inductionHypothesis =>
    obtain ⟨known, old⟩ := field
    obtain ⟨differs, isNewInRest⟩ := not_or.1 (mt List.mem_cons.2 isNew)
    rw [set, if_neg (Ne.symm differs), inductionHypothesis isNewInRest, List.cons_append]

/-- Fields whose names are new come after all others, in their order. -/
theorem merge_of_nodup_append
    {fields newer : Record}
    (distinct : (names (fields ++ newer)).Nodup) :
    merge fields newer = fields ++ newer := by
  induction newer generalizing fields with
  | nil => exact (List.append_nil fields).symm
  | cons field rest inductionHypothesis =>
    obtain ⟨name, value⟩ := field
    have isNew : name ∉ names fields := by
      intro member
      rw [names, List.map_append, List.map_cons, List.nodup_append] at distinct
      exact distinct.2.2 name member name List.mem_cons_self rfl
    have regrouped : fields ++ (name, value) :: rest = fields ++ [(name, value)] ++ rest := by
      rw [List.append_assoc, List.singleton_append]
    calc
      merge fields ((name, value) :: rest) = merge (set fields name value) rest := rfl
      _ = merge (fields ++ [(name, value)]) rest := by rw [set_of_notMem value isNew]
      _ = fields ++ [(name, value)] ++ rest := inductionHypothesis (regrouped ▸ distinct)
      _ = fields ++ (name, value) :: rest := regrouped.symm

/-- A record with distinct names is merged into the empty one as it stands. -/
theorem merge_nil_left
    {fields : Record}
    (distinct : (names fields).Nodup) :
    merge [] fields = fields :=
  merge_of_nodup_append distinct

/-! ### The order of merged fields -/

theorem merge_append (fields first second : Record) :
    merge fields (first ++ second) = merge (merge fields first) second :=
  List.foldl_append

theorem merge_concat
    (fields newer : Record)
    (field : Text × Value) :
    merge fields (newer ++ [field]) = set (merge fields newer) field.1 field.2 :=
  merge_append fields newer [field]

/-- Putting a value under a name adds the name at the end, unless it is there. -/
theorem names_set
    (fields : Record)
    (name : Text)
    (value : Value) :
    names (set fields name value) =
      if name ∈ names fields then names fields else names fields ++ [name] := by
  induction fields with
  | nil => rfl
  | cons field rest inductionHypothesis =>
    obtain ⟨known, old⟩ := field
    by_cases same : known = name
    · subst same
      simp [set, names]
    · unfold names at inductionHypothesis ⊢
      rw [set, if_neg same, List.map_cons, inductionHypothesis, List.map_cons]
      by_cases member : name ∈ rest.map Prod.fst
      · have isThere : name ∈ known :: rest.map Prod.fst := List.mem_cons_of_mem known member
        rw [if_pos member, if_pos isThere]
      · have isNew : name ∉ known :: rest.map Prod.fst :=
          mt List.mem_cons.1 (not_or.2 ⟨Ne.symm same, member⟩)
        rw [if_neg member, if_neg isNew, List.cons_append]

/-- The first occurrences in a list grow by what was not in it. -/
theorem eraseDups_concat
    (words : List Text)
    (word : Text) :
    (words ++ [word]).eraseDups =
      if word ∈ words then words.eraseDups else words.eraseDups ++ [word] := by
  rw [List.eraseDups_append]
  by_cases member : word ∈ words
  · have none : [word].removeAll words = [] := by simp [List.removeAll, member]
    rw [none, if_pos member, List.eraseDups_nil, List.append_nil]
  · have one : [word].removeAll words = [word] := by simp [List.removeAll, member]
    rw [one, if_neg member]
    rfl

theorem eraseDups_of_nodup
    {words : List Text}
    (distinct : words.Nodup) :
    words.eraseDups = words := by
  induction words using List.reverseRecOn with
  | nil => rfl
  | append_singleton words word inductionHypothesis =>
    obtain ⟨distinctWords, -, apart⟩ := List.nodup_append.1 distinct
    have isNew : word ∉ words := fun member => apart word member word List.mem_cons_self rfl
    rw [eraseDups_concat, if_neg isNew, inductionHypothesis distinctWords]

/-- After a merge the names stand in the order in which they first came up. -/
theorem names_merge
    {fields : Record}
    (distinct : (names fields).Nodup)
    (newer : Record) :
    names (merge fields newer) = (names (fields ++ newer)).eraseDups := by
  induction newer using List.reverseRecOn with
  | nil =>
    rw [List.append_nil, eraseDups_of_nodup distinct]
    rfl
  | append_singleton newer field inductionHypothesis =>
    have grown : names (fields ++ (newer ++ [field])) = names (fields ++ newer) ++ [field.1] := by
      simp [names]
    rw [merge_concat, names_set, grown, eraseDups_concat, inductionHypothesis]
    exact if_congr List.mem_eraseDups rfl rfl

theorem nodup_set
    {fields : Record}
    (distinct : (names fields).Nodup)
    (name : Text)
    (value : Value) :
    (names (set fields name value)).Nodup := by
  rw [names_set]
  split
  · exact distinct
  · next isNew =>
    refine List.nodup_append.2 ⟨distinct, List.nodup_singleton name, ?_⟩
    intro known member other isOther
    rw [List.mem_singleton.1 isOther]
    exact fun same => isNew (same ▸ member)

theorem nodup_merge
    {fields : Record}
    (distinct : (names fields).Nodup)
    (newer : Record) :
    (names (merge fields newer)).Nodup := by
  induction newer using List.reverseRecOn with
  | nil => exact distinct
  | append_singleton newer field inductionHypothesis =>
    rw [merge_concat]
    exact nodup_set inductionHypothesis field.1 field.2

/-- A merged record has no names but those of its parts. -/
theorem mem_names_merge
    {fields newer : Record}
    {name : Text}
    (member : name ∈ names (merge fields newer)) :
    name ∈ names fields ∨ name ∈ names newer := by
  obtain ⟨value, found⟩ := exists_get?_of_mem_names member
  obtain given | old := mem_or_get?_of_get?_merge found
  · exact .inr (mem_names_of_mem given)
  · exact .inl (mem_names_of_mem (mem_of_get? old))

/-! ### Merging what was merged -/

theorem set_set
    (fields : Record)
    (name : Text)
    (old new : Value) :
    set (set fields name old) name new = set fields name new := by
  induction fields with
  | nil => simp [set]
  | cons field rest inductionHypothesis =>
    obtain ⟨known, value⟩ := field
    by_cases same : known = name
    · simp [set, same]
    · simp [set, same, inductionHypothesis]

/-- A name that is there keeps its place, so that its value may be put in before another one. -/
theorem set_comm
    {fields : Record}
    {name other : Text}
    (member : name ∈ names fields)
    (different : other ≠ name)
    (value change : Value) :
    set (set fields other value) name change = set (set fields name change) other value := by
  induction fields with
  | nil => cases member
  | cons field rest inductionHypothesis =>
    obtain ⟨known, old⟩ := field
    by_cases same : known = name
    · subst same
      simp [set, Ne.symm different]
    · have inRest : name ∈ names rest :=
        (List.mem_cons.1 member).resolve_left (Ne.symm same)
      by_cases sameOther : known = other
      · simp [set, sameOther, different]
      · simp [set, same, sameOther, inductionHypothesis inRest]

theorem set_merge_of_notMem
    {fields newer : Record}
    {name : Text}
    (member : name ∈ names fields)
    (apart : name ∉ names newer)
    (value : Value) :
    set (merge fields newer) name value = merge (set fields name value) newer := by
  induction newer generalizing fields with
  | nil => rfl
  | cons field rest inductionHypothesis =>
    obtain ⟨other, given⟩ := field
    obtain ⟨different, apartRest⟩ := not_or.1 (mt List.mem_cons.2 apart)
    have stays : name ∈ names (set fields other given) := by
      rw [names_set]
      split
      · exact member
      · exact List.mem_append_left _ member
    calc
      set (merge fields ((other, given) :: rest)) name value
          = set (merge (set fields other given) rest) name value := rfl
      _ = merge (set (set fields other given) name value) rest :=
        inductionHypothesis stays apartRest
      _ = merge (set (set fields name value) other given) rest := by
        rw [set_comm member (Ne.symm different)]
      _ = merge (set fields name value) ((other, given) :: rest) := rfl

/-- Putting a value into a record before it is merged is as good as putting it in afterwards. -/
theorem merge_set
    (fields : Record)
    {newer : Record}
    (distinct : (names newer).Nodup)
    (name : Text)
    (value : Value) :
    merge fields (set newer name value) = set (merge fields newer) name value := by
  induction newer generalizing fields with
  | nil => rfl
  | cons field rest inductionHypothesis =>
    obtain ⟨known, old⟩ := field
    obtain ⟨isNew, distinctRest⟩ := List.nodup_cons.1 distinct
    by_cases same : known = name
    · subst same
      have isThere : known ∈ names (set fields known old) :=
        mem_names_of_mem (mem_of_get? (get?_set_self fields known old))
      rw [set, if_pos rfl]
      calc
        merge fields ((known, value) :: rest)
            = merge (set fields known value) rest := rfl
        _ = merge (set (set fields known old) known value) rest := by rw [set_set]
        _ = set (merge (set fields known old) rest) known value :=
          (set_merge_of_notMem isThere isNew value).symm
        _ = set (merge fields ((known, old) :: rest)) known value := rfl
    · rw [set, if_neg same]
      exact inductionHypothesis (set fields known old) distinctRest

/-- Fields may be merged into one record first, and that record then. -/
theorem merge_ofPairs (fields newer : Record) : merge fields (ofPairs newer) = merge fields newer := by
  unfold ofPairs
  induction newer using List.reverseRecOn with
  | nil => rfl
  | append_singleton newer field inductionHypothesis =>
    have none : (names []).Nodup := List.nodup_nil
    have distinct : (names (merge [] newer)).Nodup := nodup_merge none newer
    rw [merge_concat, merge_concat, merge_set fields distinct, inductionHypothesis]

end Daybook.Record
