import TactServer.Message.Basic

/-!
# What messages carry

An answer carries the id that it answers and either a result or an error. What the server says of
its own accord carries no id, so the editor can tell the two apart.
-/

set_option autoImplicit false

namespace TactServer

namespace Json

/-! ## Members -/

theorem lookup_insert_member (key sought : String) (value : Json)
    (members : List (String × Json)) :
    lookup sought (insertMember key value members) =
      if sought = key then some value else lookup sought members := by
  induction members with
  | nil => rfl
  | cons member rest ih =>
      obtain ⟨other, current⟩ := member
      by_cases same : key = other
      · by_cases found : sought = other
        · simp [insertMember, lookup, same, found]
        · simp [insertMember, lookup, same, found]
      · by_cases before : key < other
        · simp [insertMember, lookup, same, before]
        · by_cases found : sought = other
          · have different : ¬other = key := fun equal => same equal.symm
            simp [insertMember, lookup, same, before, found, different]
          · simp [insertMember, lookup, same, before, found, ih]

theorem lookup_append (sought : String) (first second : List (String × Json)) :
    lookup sought (first ++ second) = (lookup sought first).or (lookup sought second) := by
  induction first with
  | nil => rfl
  | cons member rest ih =>
      obtain ⟨other, current⟩ := member
      by_cases found : sought = other
      · simp [lookup, found]
      · simp [lookup, found, ih]

theorem lookup_fold (sought : String) (members sorted : List (String × Json)) :
    lookup sought
        (members.foldl (fun sorted member => insertMember member.1 member.2 sorted) sorted) =
      lookup sought (members.reverse ++ sorted) := by
  induction members generalizing sorted with
  | nil => rfl
  | cons member rest ih =>
      rw [List.foldl_cons, ih, List.reverse_cons, List.append_assoc, lookup_append, lookup_append,
        lookup_insert_member]
      rfl

/-- Of members under the same key the last one counts. -/
theorem member_of_members (sought : String) (members : List (String × Json)) :
    (ofMembers members).member? sought = lookup sought members.reverse := by
  have sorted := lookup_fold sought members []
  rwa [List.append_nil] at sorted

end Json

namespace Message

/-! ## What the server sends -/

theorem answer_id (id : Json) (outcome : Except Refusal Json) :
    (answer id outcome).member? "id" = some id := by
  cases outcome with
  | ok result => simp [answer, version, Json.member_of_members, Json.lookup]
  | error refusal => simp [answer, version, Json.member_of_members, Json.lookup]

theorem answer_one_of (id : Json) (outcome : Except Refusal Json) :
    ((answer id outcome).member? "result").isSome =
      !((answer id outcome).member? "error").isSome := by
  cases outcome with
  | ok result => simp [answer, version, Json.member_of_members, Json.lookup]
  | error refusal => simp [answer, version, Json.member_of_members, Json.lookup]

theorem refusal_code (id : Json) (refusal : Refusal) :
    ((answer id (.error refusal)).member? "error").bind (Json.member? "code") =
      some (.ofInt refusal.code) := by
  simp [answer, version, Refusal.encode, Json.member_of_members, Json.lookup]

theorem notify_id (method : String) (params : Json) :
    (notify method params).member? "id" = none := by
  simp [notify, version, Json.member_of_members, Json.lookup]

/-! ## What the editor sends -/

def id? : Message → Option Json
  | .request id _ _ => some id
  | .notification _ _ => none
  | .reply id => some id
  | .invalid id => id

theorem of_json_id (value : Json) : (ofJson value).id? = present? "id" value := by
  unfold ofJson
  cases present? "id" value with
  | none =>
      cases (value.member? "method").bind string? with
      | none => rfl
      | some method => rfl
  | some id =>
      cases (value.member? "method").bind string? with
      | some method => rfl
      | none =>
          simp only
          split
          · rfl
          · rfl

/-- An id that is null counts as none. -/
theorem present_get (key : String) (value : Json) :
    (present? key value).getD .null = (value.member? key).getD .null := by
  unfold present?
  cases value.member? key with
  | none => rfl
  | some found =>
      cases found with
      | null => rfl
      | _ => rfl

theorem of_json_id_get (value : Json) :
    (ofJson value).id?.getD .null = (value.member? "id").getD .null := by
  rw [of_json_id, present_get]

end Message

end TactServer
