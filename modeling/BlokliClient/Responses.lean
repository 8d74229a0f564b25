import BlokliClient.Wire

/-!
# Responses with errors

A GraphQL response carries data, errors, or both. Data counts, whatever errors come
with it; without data the errors are folded into one.

* `gathered` and `GraphQlError.joined` say what one error is to be made of many.
* `foldl_merge` : the fold of the source, which extends an accumulator error by
  error, computes it.
-/

namespace Blokli

/-- `GraphQlResponse`, once its data was read. -/
structure Response (Q : Type) where
  data : Option Q
  errors : Option (List GraphQlError)

/-- `response_to_data`. -/
def Response.toData {Q : Type} (response : Response Q) : Except ErrorKind Q :=
  -- data wins over errors
  match response.data, response.errors with
  | some data, none => .ok data
  | some data, some _ => .ok data
  | none, some [] => .error .noData
  -- the first error takes in the others, in their order
  | none, some (e :: es) => .error (.graphQLError (es.foldl GraphQlError.merge e))
  | none, none => .error .noData

/-- The hub reads responses as JSON. -/
theorem responseToData_eq (response : GraphQlResponse) :
    responseToData response = Response.toData ⟨response.data, response.errors⟩ := by
  unfold responseToData Response.toData
  cases response.data with
  | none =>
    cases response.errors with
    | none => rfl
    | some errors => cases errors <;> rfl
  | some data => cases response.errors <;> rfl

/-- Success is data. -/
theorem toData_eq_ok {Q : Type} (response : Response Q) (data : Q) :
    response.toData = .ok data ↔ response.data = some data := by
  obtain ⟨found, errors⟩ := response
  cases found with
  | none => rcases errors with _ | _ | ⟨e, es⟩ <;> simp [Response.toData]
  | some d => cases errors <;> simp [Response.toData]

/-! ### One error out of many -/

/-- The lists that are there, one after the other. -/
def gathered {α : Type} : List (Option (List α)) → Option (List α)
  | [] => none
  | none :: lists => gathered lists
  | some xs :: lists => some (xs ++ (gathered lists).getD [])

/-- The list of an accumulator, extended by one that may be missing. -/
def extended {α : Type} (acc next : Option (List α)) : Option (List α) :=
  -- nothing to add
  match next with
  | none => acc
  | some xs => some (acc.getD [] ++ xs)

/-- Extending the first list is putting the next one behind it. -/
theorem gathered_extended {α : Type} (acc next : Option (List α)) (lists : List (Option (List α))) :
    gathered (extended acc next :: lists) = gathered (acc :: next :: lists) := by
  cases next with
  | none => cases acc <;> rfl
  | some xs =>
    -- nothing gathered so far
    cases acc with
    | none => rfl
    | some ys =>
      change some ((ys ++ xs) ++ _) = some (ys ++ (xs ++ _))
      rw [List.append_assoc]

/-- The accumulator of the fold is the first of the gathered lists. -/
theorem foldl_extended {α : Type} (acc : Option (List α)) (lists : List (Option (List α))) :
    lists.foldl extended acc = gathered (acc :: lists) := by
  induction lists generalizing acc with
  | nil =>
    cases acc with
    | none => rfl
    | some xs => exact congrArg some (List.append_nil xs).symm
  | cons next lists ih => rw [List.foldl_cons, ih, gathered_extended]

/-- Nothing that is listed is lost, and nothing is added. -/
theorem mem_gathered {α : Type} {lists : List (Option (List α))} {x : α} :
    x ∈ (gathered lists).getD [] ↔ ∃ xs, some xs ∈ lists ∧ x ∈ xs := by
  induction lists with
  | nil => simp [gathered]
  | cons first lists ih =>
    cases first with
    | none =>
      unfold gathered
      rw [ih]
      simp
    | some ys =>
      unfold gathered
      rw [Option.getD_some, List.mem_append, ih]
      simp

/-- Messages are separated by commas, once there is one. -/
def joinMessages (acc : Text) (messages : List Text) : Text :=
  messages.foldl (fun acc next => acc ++ (if acc.isEmpty then [] else ", ".toList) ++ next) acc

/-- Behind a message that is not empty, every comma is there. -/
theorem joinMessages_of_ne_nil {acc : Text} (h : acc ≠ []) (messages : List Text) :
    joinMessages acc messages = List.intercalate ", ".toList (acc :: messages) := by
  induction messages generalizing acc with
  | nil => exact (List.append_nil acc).symm
  | cons next messages ih =>
    -- a message is there, so that a comma follows
    have h_acc : acc.isEmpty = false := List.isEmpty_eq_false_iff.mpr h
    have h_step : joinMessages acc (next :: messages) =
        joinMessages (acc ++ ", ".toList ++ next) messages := by
      unfold joinMessages
      rw [List.foldl_cons, h_acc]
      rfl
    have h_next : acc ++ ", ".toList ++ next ≠ [] := fun h_nil =>
      h (List.append_eq_nil_iff.mp (List.append_eq_nil_iff.mp h_nil).1).1
    rw [h_step, ih h_next]
    -- one message left, or several
    cases messages with
    | nil => simp [List.intercalate, List.intersperse]
    | cons m messages => simp [List.intercalate, List.intersperse]

/-- **Messages.** Those in front that are empty leave no trace. -/
theorem joinMessages_eq (first : Text) (messages : List Text) :
    joinMessages first messages =
      List.intercalate ", ".toList ((first :: messages).dropWhile List.isEmpty) := by
  induction messages generalizing first with
  | nil =>
    cases first with
    | nil => rfl
    -- the first message has characters, and every comma is there
    | cons c first => exact joinMessages_of_ne_nil (List.cons_ne_nil c first) []
  | cons next messages ih =>
    cases first with
    -- it is empty, and the next one takes its place
    | nil => exact ih next
    | cons c first => exact joinMessages_of_ne_nil (List.cons_ne_nil c first) (next :: messages)

/-- The error that errors are folded into. -/
def GraphQlError.joined (errors : List GraphQlError) : GraphQlError where
  message := List.intercalate ", ".toList ((errors.map GraphQlError.message).dropWhile List.isEmpty)
  locations := gathered (errors.map GraphQlError.locations)
  path := gathered (errors.map GraphQlError.path)

/-- One merge, field by field. -/
theorem merge_eq (acc next : GraphQlError) : acc.merge next =
    { message := joinMessages acc.message [next.message]
      locations := extended acc.locations next.locations
      path := extended acc.path next.path } := by
  unfold GraphQlError.merge extended
  cases next.locations <;> cases next.path <;> rfl

/-- **The fold.** -/
theorem foldl_merge (first : GraphQlError) (errors : List GraphQlError) :
    errors.foldl GraphQlError.merge first = GraphQlError.joined (first :: errors) := by
  have h_fields : ∀ (acc : GraphQlError) (errors : List GraphQlError),
      errors.foldl GraphQlError.merge acc =
        { message := joinMessages acc.message (errors.map GraphQlError.message)
          locations := (errors.map GraphQlError.locations).foldl extended acc.locations
          path := (errors.map GraphQlError.path).foldl extended acc.path } := by
    intro acc errors
    induction errors generalizing acc with
    | nil => rfl
    | cons next errors ih =>
      rw [List.foldl_cons, ih, merge_eq]
      rfl
  rw [h_fields, joinMessages_eq, foldl_extended, foldl_extended]
  rfl

/-- What the hub reports to a slot that has errors. -/
theorem errorsToClientError_joined {errors : List GraphQlError} (h : errors ≠ []) :
    errorsToClientError errors = .graphQLError (GraphQlError.joined errors) := by
  unfold errorsToClientError
  rw [responseToData_eq]
  cases errors with
  | nil => exact absurd rfl h
  | cons first rest =>
    show ErrorKind.graphQLError (rest.foldl GraphQlError.merge first) = _
    rw [foldl_merge]

/-- **Errors are merged.** A response without data is an error that says what its errors
say: their messages, separated by commas but for empty ones in front, and all their
locations and paths, in the order of the errors. A response with data is that data. What
the hub reports to a slot of its errors is the same error. -/
theorem errors_merged {Q : Type} (response : Response Q) :
    (∀ data, response.toData = .ok data ↔ response.data = some data) ∧
    (∀ error, response.toData = .error error ↔ response.data = none ∧
      error = match response.errors with
        | none | some [] => .noData
        | some errors => .graphQLError (GraphQlError.joined errors)) ∧
    (∀ errors, errors ≠ [] →
      errorsToClientError errors = .graphQLError (GraphQlError.joined errors)) ∧
    ∀ errors, response.errors = some errors → ∀ e ∈ errors,
      (∀ locations, e.locations = some locations →
        locations ⊆ ((GraphQlError.joined errors).locations).getD []) ∧
      ∀ path, e.path = some path → path ⊆ ((GraphQlError.joined errors).path).getD [] := by
  refine ⟨toData_eq_ok response, fun error => ?_, fun errors => errorsToClientError_joined,
    fun errors _ e h_e =>
    ⟨fun locations h_locations x h_x => ?_, fun path h_path x h_x => ?_⟩⟩
  · obtain ⟨found, errors⟩ := response
    cases found with
    | none =>
      rcases errors with _ | _ | ⟨e, es⟩
      · simp [Response.toData, eq_comm]
      · simp [Response.toData, eq_comm]
      · simp only [Response.toData, foldl_merge, Except.error.injEq, true_and]
        exact eq_comm
    | some d => cases errors <;> simp [Response.toData]
  · exact mem_gathered.mpr ⟨locations, List.mem_map.mpr ⟨e, h_e, h_locations⟩, h_x⟩
  · exact mem_gathered.mpr ⟨path, List.mem_map.mpr ⟨e, h_e, h_path⟩, h_x⟩

end Blokli
