import TaskAutomation.Proofs.Json.DoubleText

/-!
This file says which values there are and what becomes of them when they are written and read again.
Whole numbers have 64 bits, other numbers are finite, and the names of a record ascend. Only the
numbers with a fraction or an exponent may come back changed, because the reader rounds more than
once.
-/

namespace TaskAutomation

/-- What is read from the text of a number. -/
def Double.reread (d : Double) : Double :=
  match Json.parse d.text with
  | .ok (.double read) => read
  | _ => d

namespace Json

/-- The names of the fields ascend. -/
def Ascending (fields : List (String × Json)) : Prop :=
  fields.Pairwise fun former latter => former.1 < latter.1

mutual

/-- The values that there are. -/
def Valid : Json → Prop
  | integer n => -(Word.size64 / 2 : Int) ≤ n ∧ n < Word.size64
  | double d => d.Fits
  | list items => ValidItems items
  | record fields => Ascending fields ∧ ValidFields fields
  | _ => True

def ValidItems : List Json → Prop
  | [] => True
  | item :: rest => item.Valid ∧ ValidItems rest

def ValidFields : List (String × Json) → Prop
  | [] => True
  | (_, value) :: rest => value.Valid ∧ ValidFields rest

end

mutual

/-- The value with every number as it is read again. -/
def reread : Json → Json
  | double d => double d.reread
  | list items => list (rereadItems items)
  | record fields => record (rereadFields fields)
  | other => other

def rereadItems : List Json → List Json
  | [] => []
  | item :: rest => item.reread :: rereadItems rest

def rereadFields : List (String × Json) → List (String × Json)
  | [] => []
  | (name, value) :: rest => (name, value.reread) :: rereadFields rest

end

mutual

/-- The numbers with a fraction or an exponent in a value. -/
def doubles : Json → List Double
  | double d => [d]
  | list items => doublesOfItems items
  | record fields => doublesOfFields fields
  | _ => []

def doublesOfItems : List Json → List Double
  | [] => []
  | item :: rest => item.doubles ++ doublesOfItems rest

def doublesOfFields : List (String × Json) → List Double
  | [] => []
  | (_, value) :: rest => value.doubles ++ doublesOfFields rest

end

/-! ### Numbers -/

/-- A finite number is read again from its text as a finite number. -/
theorem value_reread {d : Double} (fits : d.Fits) :
    d.reread.Fits ∧ ∀ fuel levels rest, EndsNumber rest →
      value (fuel + 1) levels (d.text.toList ++ rest) = .ok (double d.reread, rest) := by
  obtain ⟨read, readFits, reads⟩ := value_text fits
  have parsed : parse d.text = .ok (double read) := by
    have whole := reads (2 * d.text.toList.length + 1) maxDepth [] endsNumber_nil
    rw [List.append_nil] at whole
    rw [parse, readAll]
    simp only [whole]
    rfl
  have same : d.reread = read := by
    rw [Double.reread, parsed]
  rw [same]
  exact ⟨readFits, reads⟩

theorem reread_eq_of_parse {d : Double} (back : parse d.text = .ok (double d)) : d.reread = d := by
  rw [Double.reread, back]

/-! ### Reading again keeps the form -/

theorem map_fst_rereadFields (fields : List (String × Json)) :
    (rereadFields fields).map Prod.fst = fields.map Prod.fst := by
  induction fields with
  | nil => rfl
  | cons field rest inductionHypothesis =>
    rw [rereadFields, List.map_cons, List.map_cons, inductionHypothesis]

theorem ascending_iff (fields : List (String × Json)) :
    Ascending fields ↔ (fields.map Prod.fst).Pairwise (· < ·) := List.pairwise_map.symm

mutual

theorem Valid.reread : ∀ {json : Json}, json.Valid → json.reread.Valid
  | null, _ => trivial
  | bool _, _ => trivial
  | integer _, valid => valid
  | double _, valid => (value_reread valid).1
  | string _, _ => trivial
  | list _, valid => ValidItems.reread valid
  | record fields, valid => by
    refine ⟨(ascending_iff _).mpr ?_, ValidFields.reread valid.2⟩
    rw [map_fst_rereadFields]
    exact (ascending_iff fields).mp valid.1

theorem ValidItems.reread : ∀ {items : List Json}, ValidItems items → ValidItems (rereadItems items)
  | [], _ => trivial
  | _ :: _, valid => ⟨Valid.reread valid.1, ValidItems.reread valid.2⟩

theorem ValidFields.reread : ∀ {fields : List (String × Json)}, ValidFields fields →
    ValidFields (rereadFields fields)
  | [], _ => trivial
  | _ :: _, valid => ⟨Valid.reread valid.1, ValidFields.reread valid.2⟩

end

mutual

theorem depth_reread : ∀ json : Json, json.reread.depth = json.depth
  | null | bool _ | integer _ | double _ | string _ => rfl
  | list items => congrArg (· + 1) (depthOfItems_reread items)
  | record fields => congrArg (· + 1) (depthOfFields_reread fields)

theorem depthOfItems_reread : ∀ items : List Json, depthOfItems (rereadItems items) =
    depthOfItems items
  | [] => rfl
  | item :: rest => congr_arg₂ max (depth_reread item) (depthOfItems_reread rest)

theorem depthOfFields_reread : ∀ fields : List (String × Json),
    depthOfFields (rereadFields fields) = depthOfFields fields
  | [] => rfl
  | (_, value) :: rest => congr_arg₂ max (depth_reread value) (depthOfFields_reread rest)

end

mutual

/-- A value whose numbers come back unchanged comes back unchanged. -/
theorem reread_eq_self : ∀ json : Json, (∀ d ∈ json.doubles, parse d.text = .ok (double d)) →
    json.reread = json
  | null, _ | bool _, _ | integer _, _ | string _, _ => rfl
  | double d, back => congrArg double (reread_eq_of_parse (back d (List.mem_singleton_self d)))
  | list items, back => congrArg list (rereadItems_eq_self items back)
  | record fields, back => congrArg record (rereadFields_eq_self fields back)

theorem rereadItems_eq_self : ∀ items : List Json,
    (∀ d ∈ doublesOfItems items, parse d.text = .ok (double d)) → rereadItems items = items
  | [], _ => rfl
  | item :: rest, back => congr_arg₂ List.cons
      (reread_eq_self item fun d member => back d (List.mem_append_left _ member))
      (rereadItems_eq_self rest fun d member => back d (List.mem_append_right _ member))

theorem rereadFields_eq_self : ∀ fields : List (String × Json),
    (∀ d ∈ doublesOfFields fields, parse d.text = .ok (double d)) → rereadFields fields = fields
  | [], _ => rfl
  | (name, value) :: rest, back => congr_arg₂ (fun value rest => (name, value) :: rest)
      (reread_eq_self value fun d member => back d (List.mem_append_left _ member))
      (rereadFields_eq_self rest fun d member => back d (List.mem_append_right _ member))

end

/-! ### Records in order are in normal form -/

/-- A name behind all others is added at the end. -/
theorem insertField_of_lt {name : String} (value : Json) {fields : List (String × Json)}
    (last : ∀ field ∈ fields, field.1 < name) :
    insertField name value fields = fields ++ [(name, value)] := by
  induction fields with
  | nil => rfl
  | cons field rest inductionHypothesis =>
    have before := last field List.mem_cons_self
    have other : ¬ name = field.1 := fun same => String.lt_irrefl name (same ▸ before)
    rw [insertField, if_neg (String.lt_asymm before), if_neg other,
      inductionHypothesis fun later member => last later (List.mem_cons_of_mem field member)]
    rfl

theorem sortFields_eq_self {fields : List (String × Json)} (ascending : Ascending fields) :
    sortFields fields = fields := by
  have step (sorted rest : List (String × Json)) (together : Ascending (sorted ++ rest)) :
      rest.foldl (fun sorted field => insertField field.1 field.2 sorted) sorted =
        sorted ++ rest := by
    induction rest generalizing sorted with
    | nil => rw [List.foldl_nil, List.append_nil]
    | cons field rest inductionHypothesis =>
      have last : ∀ former ∈ sorted, former.1 < field.1 := fun former member =>
        (List.pairwise_append.mp together).2.2 former member field List.mem_cons_self
      have split : sorted ++ field :: rest = sorted ++ [field] ++ rest := by
        rw [List.append_assoc, List.singleton_append]
      rw [split] at together ⊢
      rw [List.foldl_cons, insertField_of_lt field.2 last]
      exact inductionHypothesis _ together
  exact step [] fields ascending

mutual

theorem normal_eq_self : ∀ {json : Json}, json.Valid → json.normal = json
  | null, _ | bool _, _ | integer _, _ | double _, _ | string _, _ => rfl
  | list _, valid => congrArg list (normalItems_eq_self valid)
  | record fields, valid => by
    rw [normal, normalFields_eq_self valid.2, ofFields, sortFields_eq_self valid.1]

theorem normalItems_eq_self : ∀ {items : List Json}, ValidItems items → normalItems items = items
  | [], _ => rfl
  | _ :: _, valid => congr_arg₂ List.cons (normal_eq_self valid.1) (normalItems_eq_self valid.2)

theorem normalFields_eq_self : ∀ {fields : List (String × Json)}, ValidFields fields →
    normalFields fields = fields
  | [], _ => rfl
  | (name, _) :: _, valid => congr_arg₂ (fun value rest => (name, value) :: rest)
      (normal_eq_self valid.1) (normalFields_eq_self valid.2)

end

end Json

end TaskAutomation
