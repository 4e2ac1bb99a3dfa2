import UaFlow.Proofs.Json.RecordText
import UaFlow.Flow.Message
/-!
# A message and its JSON text

Reading the text of an object as a message keeps what the object holds, less the optional known
fields that are `null`, whenever each known member has the kind its field declares
(`Message.FieldTyped`): this is `Message.readText_render`, an instance of reading an open record
(`shapeReads_record`). The known fields are read under their shapes, and every other member is
buffered and read again as itself.

A message whose JSON form its text carries exactly (`Message.WellFormed`) therefore reads back as
itself, and the message read from any typed object writes that object back with its defaults
filled in.
-/

namespace UaFlow.Json

/-- Whether a value is `null`. -/
def Value.isNull : Value → Bool
  | .null => true
  | _ => false

/-- The members with `d` under `k` where `k` is absent. -/
def Members.withDefault (k : String) (d : Value) (ms : List (String × Value)) : List (String × Value) :=
  if (Members.find? k ms).isSome then ms else Members.insert k d ms

theorem Members.Sorted.withDefault {ms : List (String × Value)} (k : String) (d : Value)
    (hs : Members.Sorted ms) : Members.Sorted (Members.withDefault k d ms) := by
  unfold Members.withDefault
  split
  · exact hs
  · exact hs.insert k d

theorem Members.find?_withDefault (j k : String) (d : Value) (ms : List (String × Value)) :
    Members.find? j (Members.withDefault k d ms) =
      if j = k then some ((Members.find? k ms).getD d) else Members.find? j ms := by
  unfold Members.withDefault
  cases hk : Members.find? k ms with
  | none => simp [Members.find?_insert]
  | some v =>
    by_cases hj : j = k
    · subst hj
      simp [hk]
    · simp [hj]

end UaFlow.Json

namespace UaFlow.Flow

open UaFlow.Json

/-- The known text fields that may be absent. -/
def Message.textNames : List String :=
  ["topic", "datatype", "browseName", "eventTypeIds", "objectId", "methodId"]

/-- The known fields that read `null` as absent: all but `_msgid` and `payload`. -/
def Message.optionalNames : List String :=
  Message.textNames ++ ["eventFilter", "eventFields", "inputArguments"]

/-- A member whose value has the kind its field declares: a string for `_msgid`; a string or
`null` for the other text fields; `null` or an array of strings for `eventFields`; `null` or an
array of method arguments, each with just its data type and value, for `inputArguments`; anything
for `payload`, `eventFilter` and every other member. -/
def Message.FieldTyped (k : String) (v : Value) : Prop :=
  if k = "_msgid" then ∃ t, v = .str t
  else if k ∈ Message.textNames then v = .null ∨ ∃ t, v = .str t
  else if k = "eventFields" then v = .null ∨ ∃ ts : List String, v = .arr (ts.map .str)
  else if k = "inputArguments" then
    v = .null ∨ ∃ args : List MethodArgument, v = .arr (args.map MethodArgument.toValue)
  else True

/-- What a member of an object reads as in a message: nothing when it is an optional known field
holding `null`, the value itself otherwise. -/
def Message.fieldRead (k : String) (v : Value) : Option Value :=
  if Message.optionalNames.contains k && v.isNull then none else some v

/-- The members of an object that reading it as a message keeps. -/
def Message.presentMembers (ms : List (String × Value)) : List (String × Value) :=
  ms.filterMap fun kv => (Message.fieldRead kv.1 kv.2).map (kv.1, ·)

theorem Message.presentMembers_eq_self {ms : List (String × Value)}
    (h : ∀ p ∈ ms, Message.fieldRead p.1 p.2 = some p.2) : Message.presentMembers ms = ms := by
  induction ms with
  | nil => rfl
  | cons p ms ih =>
    rw [Message.presentMembers, List.filterMap_cons, h p List.mem_cons_self]
    exact congrArg (p :: ·) (ih fun q hq => h q (List.mem_cons_of_mem p hq))

theorem Message.shape_eq : Message.shape = .record "Message" Message.shape.fields true := rfl

theorem Message.fieldNames_eq : Message.fieldNames = Json.fieldNames Message.shape.fields := rfl

theorem Message.fieldShape?_text {k : String} (hk : k ∈ Message.textNames) :
    fieldShape? Message.shape.fields k = some (.optional .text) := by
  simp only [Message.textNames, List.mem_cons, List.not_mem_nil, or_false] at hk
  rcases hk with rfl | rfl | rfl | rfl | rfl | rfl <;> rfl

theorem Message.fieldRead_of_not_null (k : String) {v : Value} (hv : v.isNull = false) :
    Message.fieldRead k v = some v := by
  simp [Message.fieldRead, hv]

theorem Message.fieldRead_null {k : String} (hk : k ∈ Message.optionalNames) :
    Message.fieldRead k .null = none := by
  simp [Message.fieldRead, hk, Value.isNull]

theorem Message.fieldRead_of_not_optional {k : String} (hk : k ∉ Message.optionalNames) (v : Value) :
    Message.fieldRead k v = some v := by
  simp [Message.fieldRead, hk]

theorem Message.fieldTyped_text {k : String} (hk : k ∈ Message.textNames) (v : Value) :
    Message.FieldTyped k v ↔ v = .null ∨ ∃ t, v = .str t := by
  have hid : k ≠ "_msgid" := by
    rintro rfl
    simp [Message.textNames] at hk
  simp only [Message.FieldTyped, hid, hk, if_true, if_false]

/-! ## Method arguments -/

theorem MethodArgument.toValue_eq (a : MethodArgument) :
    a.toValue = .obj [("dataType", .str a.dataType), ("value", a.value)] := by
  have hlt : ¬ ("value" : String) < "dataType" := by decide
  have hne : ("value" : String) ≠ "dataType" := by decide
  simp [MethodArgument.toValue, Value.object, Members.ofList, Members.insert, hlt, hne]

theorem MethodArgument.sorted_members (a : MethodArgument) :
    Members.Sorted [("dataType", .str a.dataType), ("value", a.value)] := by
  simp only [Members.Sorted, List.pairwise_pair]
  decide

theorem MethodArgument.canonical_toValue {a : MethodArgument} (hv : a.value.Canonical) :
    a.toValue.Canonical := by
  rw [MethodArgument.toValue_eq]
  refine ⟨a.sorted_members, ?_, trivial, hv, trivial⟩
  intro p hp
  rw [List.head?_cons, Option.mem_some_iff] at hp
  subst hp
  show ("dataType" : String) ≠ numberMarker
  decide

/-- The object of a method argument reads back as itself under the argument's record shape. -/
theorem MethodArgument.shapeReads {len depth : Nat} {a : MethodArgument} (hv : a.value.Canonical)
    (hdepth : a.value.depth + 1 < depth) :
    ShapeReads len depth (2 * a.toValue.render.toList.length) MethodArgument.shape a.toValue (some a.toValue) := by
  have hvalue : a.value.render.toList.length < a.toValue.render.toList.length := by
    rw [MethodArgument.toValue_eq]
    exact length_render_lt_of_mem_members (p := ("value", a.value)) (by simp)
  have hreads : ∀ m ∈ [("dataType", Value.str a.dataType), ("value", a.value)],
      MemberReads len (depth - 1) a.value.render.toList.length MethodArgument.shape.fields false
        (fun _ v => some v) m := by
    intro m hm
    rcases List.mem_cons.mp hm with rfl | hm
    · exact (shapeReads_text a.dataType).mono (Nat.zero_le _)
    · rw [List.mem_singleton] at hm
      subst hm
      exact shapeReads_any hv (by omega)
  have hrecord : ShapeReads len depth (a.value.render.toList.length + a.toValue.render.toList.length)
      (.record "MethodArgument" MethodArgument.shape.fields false) a.toValue (some a.toValue) := by
    -- the two fields are seen and stored, and nothing is kept
    have hfold : [("dataType", Value.str a.dataType), ("value", a.value)].foldl
        (gatherField MethodArgument.shape.fields fun _ v => some v) ([], [], []) =
        (["value", "dataType"], [("dataType", .str a.dataType), ("value", a.value)], []) := by
      have hlt : ¬ ("value" : String) < "dataType" := by decide
      have hne : ("value" : String) ≠ "dataType" := by decide
      simp [gatherField, fieldShape?, MethodArgument.shape, Shape.fields, Members.insert, hlt, hne]
    rw [MethodArgument.toValue_eq]
    exact shapeReads_record (by omega) a.sorted_members hreads (by rw [hfold]; rfl) (by rw [hfold]; rfl)
  exact hrecord.mono (by omega)

/-! ## Reading the members of a message -/

theorem Message.fieldShape?_eq_none {k : String} (hk : k ∉ Message.fieldNames) :
    fieldShape? Message.shape.fields k = none :=
  Json.fieldShape?_eq_none (by rw [← Message.fieldNames_eq]; exact hk)

theorem Message.mem_optionalNames_of_text {k : String} (hk : k ∈ Message.textNames) : k ∈ Message.optionalNames :=
  List.mem_append_left _ hk

/-- An array of strings reads back under an optional list of texts. -/
theorem Message.shapeReads_texts {len : Nat} (ts : List String) :
    ShapeReads len 127 (3 * (Value.arr (ts.map .str)).render.toList.length + 1) (.optional (.list .text))
      (.arr (ts.map .str)) (some (.arr (ts.map .str))) := by
  have hitems : ∀ y ∈ ts.map Value.str, ShapeReads len 126 0 .text y (some y) := by
    intro y hy
    obtain ⟨t, -, rfl⟩ := List.mem_map.mp hy
    exact shapeReads_text t
  have hcanon : ItemsCanonical (ts.map Value.str) := by
    rw [itemsCanonical_iff]
    intro y hy
    obtain ⟨t, -, rfl⟩ := List.mem_map.mp hy
    trivial
  have hlist : ShapeReads len 127 (0 + (Value.arr (ts.map .str)).render.toList.length) (.list .text)
      (.arr (ts.map .str)) (some (.arr ((ts.map Value.str).map fun y => (some y).getD .null))) :=
    shapeReads_list (by omega) hitems hcanon
  have hsame : ((ts.map Value.str).map fun y => (some y).getD .null) = ts.map Value.str := by simp
  rw [hsame] at hlist
  exact (hlist.optional hcanon (by simp)).mono (by omega)

/-- An array of method arguments reads back under an optional list of arguments. -/
theorem Message.shapeReads_arguments {len : Nat} {args : List MethodArgument}
    (hcanon : (Value.arr (args.map MethodArgument.toValue)).Canonical)
    (hdepth : (Value.arr (args.map MethodArgument.toValue)).depth < 127) :
    ShapeReads len 127 (3 * (Value.arr (args.map MethodArgument.toValue)).render.toList.length + 1)
      (.optional (.list MethodArgument.shape)) (.arr (args.map MethodArgument.toValue))
      (some (.arr (args.map MethodArgument.toValue))) := by
  have hitems : ∀ y ∈ args.map MethodArgument.toValue, ShapeReads len 126
      (2 * (Value.arr (args.map MethodArgument.toValue)).render.toList.length) MethodArgument.shape y (some y) := by
    intro y hy
    obtain ⟨a, -, rfl⟩ := List.mem_map.mp hy
    have hy' := itemsCanonical_iff.mp hcanon _ hy
    rw [MethodArgument.toValue_eq] at hy'
    have hdy : a.toValue.depth ≤ itemsDepth (args.map MethodArgument.toValue) := depth_le_itemsDepth hy
    have hdv : a.value.depth < a.toValue.depth := by
      rw [MethodArgument.toValue_eq]
      simp only [Value.depth, membersDepth]
      omega
    simp only [Value.depth] at hdepth
    exact (MethodArgument.shapeReads hy'.2.2.2.1 (by omega)).mono
      (Nat.mul_le_mul_left 2 (Nat.le_of_lt (length_render_lt_of_mem_items hy)))
  have hlist : ShapeReads len 127 _ (.list MethodArgument.shape) _ _ := shapeReads_list (by omega) hitems hcanon
  have hsame : ((args.map MethodArgument.toValue).map fun y => (some y).getD .null) =
      args.map MethodArgument.toValue := by simp
  rw [hsame] at hlist
  exact (hlist.optional hcanon (by simp)).mono (by omega)

/-- **Every typed member of an object is read by the message record**: a known field under its
shape (as absent when it is optional and `null`), any other member kept as it is. -/
theorem Message.memberReads {len : Nat} {k : String} {v : Value} (hk : Message.FieldTyped k v)
    (hv : v.Canonical) (hdepth : v.depth < 127) :
    MemberReads len 127 (3 * v.render.toList.length + 1) Message.shape.fields true Message.fieldRead (k, v) := by
  unfold Message.FieldTyped at hk
  unfold MemberReads
  dsimp only
  by_cases hid : k = "_msgid"
  · subst hid
    rw [if_pos rfl] at hk
    obtain ⟨t, rfl⟩ := hk
    rw [show fieldShape? Message.shape.fields "_msgid" = some .text from rfl, Message.fieldRead_of_not_null _ rfl]
    exact (shapeReads_text t).mono (Nat.zero_le _)
  rw [if_neg hid] at hk
  by_cases htext : k ∈ Message.textNames
  · rw [if_pos htext] at hk
    rw [Message.fieldShape?_text htext]
    rcases hk with rfl | ⟨t, rfl⟩
    · rw [Message.fieldRead_null (Message.mem_optionalNames_of_text htext)]
      exact (shapeReads_optional_null .text).mono (Nat.zero_le _)
    · rw [Message.fieldRead_of_not_null _ rfl]
      exact ((shapeReads_text t).optional trivial (by simp)).mono (by omega)
  rw [if_neg htext] at hk
  by_cases hfields : k = "eventFields"
  · subst hfields
    rw [if_pos rfl] at hk
    rw [show fieldShape? Message.shape.fields "eventFields" = some (.optional (.list .text)) from rfl]
    rcases hk with rfl | ⟨ts, rfl⟩
    · rw [Message.fieldRead_null (by decide)]
      exact (shapeReads_optional_null _).mono (Nat.zero_le _)
    · rw [Message.fieldRead_of_not_null _ rfl]
      exact Message.shapeReads_texts ts
  rw [if_neg hfields] at hk
  by_cases hargs : k = "inputArguments"
  · subst hargs
    rw [if_pos rfl] at hk
    rw [show fieldShape? Message.shape.fields "inputArguments" =
      some (.optional (.list MethodArgument.shape)) from rfl]
    rcases hk with rfl | ⟨args, rfl⟩
    · rw [Message.fieldRead_null (by decide)]
      exact (shapeReads_optional_null _).mono (Nat.zero_le _)
    · rw [Message.fieldRead_of_not_null _ rfl]
      exact Message.shapeReads_arguments hv hdepth
  by_cases hpayload : k = "payload"
  · subst hpayload
    rw [show fieldShape? Message.shape.fields "payload" = some .any from rfl,
      Message.fieldRead_of_not_optional (by decide)]
    exact (shapeReads_any hv hdepth).mono (by omega)
  by_cases hfilter : k = "eventFilter"
  · subst hfilter
    rw [show fieldShape? Message.shape.fields "eventFilter" = some (.optional .any) from rfl]
    cases hnull : v.isNull with
    | true =>
      cases v <;> simp only [Value.isNull, Bool.false_eq_true] at hnull
      rw [Message.fieldRead_null (by decide)]
      exact (shapeReads_optional_null _).mono (Nat.zero_le _)
    | false =>
      rw [Message.fieldRead_of_not_null _ hnull]
      have hne : v ≠ .null := by
        rintro rfl
        cases hnull
      exact ((shapeReads_any hv hdepth).optional hv hne).mono (by omega)
  -- any other key is no known field, and the open record keeps its member
  have hunknown : k ∉ Message.fieldNames := by
    simp only [Message.textNames, List.mem_cons, List.not_mem_nil, or_false, not_or] at htext
    simp only [Message.fieldNames, List.mem_cons, List.not_mem_nil, or_false, not_or]
    exact ⟨hid, htext.1, htext.2.1, htext.2.2.1, hpayload, hfilter, hfields, htext.2.2.2.1, htext.2.2.2.2.1,
      htext.2.2.2.2.2, hargs⟩
  rw [Message.fieldShape?_eq_none hunknown]
  exact ⟨rfl, hv, hdepth, by omega⟩

/-- An optional known field is a known field. -/
theorem Message.mem_fieldNames_of_optional : ∀ k ∈ Message.optionalNames, k ∈ Message.fieldNames := by
  decide

theorem Message.fieldRead_of_fieldShape?_eq_none {k : String} (h : fieldShape? Message.shape.fields k = none)
    (v : Value) : Message.fieldRead k v = some v := by
  apply Message.fieldRead_of_not_optional
  intro hk
  have hknown : k ∈ Json.fieldNames Message.shape.fields := by
    rw [← Message.fieldNames_eq]
    exact Message.mem_fieldNames_of_optional k hk
  have hsome := fieldShape?_isSome hknown
  rw [h] at hsome
  cases hsome

theorem Message.firstMissing_eq_none (seen : List String) : firstMissing Message.shape.fields seen = none := rfl

/-- **The text of a typed object reads as a message record holding its members**, less the
optional known fields that are `null`. -/
theorem Message.readText_render {ms : List (String × Value)} (hs : Members.Sorted ms)
    (hcanon : MembersCanonical ms) (hdepth : (Value.obj ms).depth < 128)
    (htyped : ∀ p ∈ ms, Message.FieldTyped p.1 p.2) :
    readText Message.shape (Value.obj ms).render = .ok (some (.obj (Message.presentMembers ms))) := by
  have hreads : ∀ p ∈ ms, MemberReads (Value.obj ms).render.utf8ByteSize 127
      (3 * (Value.obj ms).render.toList.length + 1) Message.shape.fields true Message.fieldRead p := by
    intro p hp
    obtain ⟨k, v⟩ := p
    have hlt : v.render.toList.length < (Value.obj ms).render.toList.length := length_render_lt_of_mem_members hp
    have hdv : v.depth ≤ membersDepth ms := depth_le_membersDepth hp
    have hcv : v.Canonical := membersCanonical_iff.mp hcanon _ hp
    have hkv : Message.FieldTyped k v := htyped _ hp
    simp only [Value.depth] at hdepth
    exact (Message.memberReads hkv hcv (by omega)).mono (by omega)
  have hfold : ms.foldl (gatherField Message.shape.fields Message.fieldRead) ([], [], []) = (_, _, _) :=
    foldl_gatherField ms [] [] []
  have hunknown : MembersCanonical (ms.filter fun m => (fieldShape? Message.shape.fields m.1).isNone) :=
    membersCanonical_iff.mpr fun p hp => membersCanonical_iff.mp hcanon p (List.mem_filter.mp hp).1
  have hshape : ShapeReads (Value.obj ms).render.utf8ByteSize 128 _ (.record "Message" Message.shape.fields true)
      (.obj ms) (some (.obj _)) := shapeReads_record (by omega) hs hreads (Message.firstMissing_eq_none _)
    (by rw [hfold]; simp only [List.append_nil, List.reverse_reverse]; exact addReread_canonical hunknown _)
  have hread := hshape (4 * (Value.obj ms).render.toList.length + 8) [] 0 (by omega) delimited_nil
    (by rw [utf8ByteSize_eq_byteCount]; omega)
  rw [List.append_nil] at hread
  rw [Message.shape_eq]
  simp only [readText, hread, Cursor.skipBlank, skipBlankFrom, List.isEmpty_nil, if_true]
  -- the members read are the present ones: both are sorted and agree under every key
  congr 3
  apply Members.eq_of_find?
  · exact (Members.sorted_ofList _).foldl_insert _
  · exact hs.filterMap_key _
  · intro j
    rw [find?_recordMembers hs j, Message.presentMembers, Members.find?_filterMap_key hs]
    cases hj : fieldShape? Message.shape.fields j with
    | some s => simp
    | none =>
      have hsome : Message.fieldRead j = some := funext (Message.fieldRead_of_fieldShape?_eq_none hj)
      simp [hsome]

/-! ## The members a message writes -/

/-- The members a message writes, in the order it writes them. -/
def Message.writtenMembers (m : Message) : List (String × Value) :=
  [("_msgid", .str m.msgId)] ++ presentMember "topic" (m.topic.map .str) ++
    presentMember "datatype" (m.datatype.map .str) ++
    presentMember "browseName" (m.browseName.map .str) ++ [("payload", m.payload)] ++
    presentMember "eventFilter" m.eventFilter ++
    presentMember "eventFields" (m.eventFields.map fun fs => .arr (fs.map .str)) ++
    presentMember "eventTypeIds" (m.eventTypeIds.map .str) ++
    presentMember "objectId" (m.objectId.map .str) ++
    presentMember "methodId" (m.methodId.map .str) ++
    presentMember "inputArguments"
      (m.inputArguments.map fun args => .arr (args.map MethodArgument.toValue)) ++ m.extra

theorem Message.toValue_eq (m : Message) : m.toValue = .obj (Members.ofList m.writtenMembers) := rfl

theorem find?_ofList_presentMember (j k : String) (x : Option Value) :
    Members.find? j (Members.ofList (presentMember k x)) = if j = k then x else none := by
  cases x <;> simp [presentMember, Members.ofList, Members.insert, Members.find?_cons]

theorem find?_ofList_single (j k : String) (v : Value) :
    Members.find? j (Members.ofList [(k, v)]) = if j = k then some v else none := by
  simp [Members.ofList, Members.insert, Members.find?_cons]

/-- What a message writes under a key. -/
def Message.written (m : Message) (k : String) : Option Value :=
  match k with
  | "_msgid" => some (.str m.msgId)
  | "topic" => m.topic.map .str
  | "datatype" => m.datatype.map .str
  | "browseName" => m.browseName.map .str
  | "payload" => some m.payload
  | "eventFilter" => m.eventFilter
  | "eventFields" => m.eventFields.map fun fs => .arr (fs.map .str)
  | "eventTypeIds" => m.eventTypeIds.map .str
  | "objectId" => m.objectId.map .str
  | "methodId" => m.methodId.map .str
  | "inputArguments" => m.inputArguments.map fun args => .arr (args.map MethodArgument.toValue)
  | _ => Members.find? k m.extra

theorem Message.written_of_not_mem (m : Message) {k : String} (hk : k ∉ Message.fieldNames) :
    m.written k = Members.find? k m.extra := by
  simp only [Message.fieldNames, List.mem_cons, List.not_mem_nil, or_false, not_or] at hk
  obtain ⟨h1, h2, h3, h4, h5, h6, h7, h8, h9, h10, h11⟩ := hk
  unfold Message.written
  split <;> simp_all

/-- **Under each key, the JSON form of a message holds what the message writes there**, when its
other members are in key order and none of them has a known name. -/
theorem Message.find?_writtenMembers {m : Message} (hs : Members.Sorted m.extra)
    (hextra : ∀ p ∈ m.extra, p.1 ∉ Message.fieldNames) (k : String) :
    Members.find? k (Members.ofList m.writtenMembers) = m.written k := by
  have hknown : ∀ j ∈ Message.fieldNames, Members.find? j m.extra = none := fun j hj =>
    Members.find?_eq_none_of_not_mem fun p hp heq => hextra p hp (heq ▸ hj)
  simp only [Message.writtenMembers, Members.find?_ofList_append, find?_ofList_presentMember,
    find?_ofList_single, Members.ofList_of_sorted hs]
  by_cases hk : k ∈ Message.fieldNames
  · -- a known key finds its field, and nothing among the other members
    have hnone := hknown k hk
    unfold Message.written
    simp only [Message.fieldNames, List.mem_cons, List.not_mem_nil, or_false] at hk
    rcases hk with rfl | rfl | rfl | rfl | rfl | rfl | rfl | rfl | rfl | rfl | rfl <;> simp [hnone]
  · -- any other key finds only the other members
    rw [Message.written_of_not_mem m hk]
    simp only [Message.fieldNames, List.mem_cons, List.not_mem_nil, or_false, not_or] at hk
    obtain ⟨h1, h2, h3, h4, h5, h6, h7, h8, h9, h10, h11⟩ := hk
    simp only [h1, h2, h3, h4, h5, h6, h7, h8, h9, h10, h11, if_false, Option.or_none]

/-! ## Reading the fields of a message from its members -/

theorem textMember?_eq {ms : List (String × Value)} {k : String} {x : Option String}
    (h : Members.find? k ms = x.map .str) : textMember? ms k = x := by
  unfold textMember?
  rw [h]
  cases x <;> rfl

theorem textsMember?_eq {ms : List (String × Value)} {k : String} {x : Option (List String)}
    (h : Members.find? k ms = x.map fun ts => .arr (ts.map .str)) : textsMember? ms k = x := by
  unfold textsMember?
  rw [h]
  cases x with
  | none => rfl
  | some ts => simp only [Option.map_some, List.filterMap_map, Function.comp_def, List.filterMap_some]

theorem MethodArgument.ofMembers_toValue (a : MethodArgument) :
    MethodArgument.ofMembers [("dataType", .str a.dataType), ("value", a.value)] = a := by
  simp [MethodArgument.ofMembers, textMember?, Members.find?_cons]

theorem argumentsMember?_eq {ms : List (String × Value)} {x : Option (List MethodArgument)}
    (h : Members.find? "inputArguments" ms = x.map fun args => .arr (args.map MethodArgument.toValue)) :
    argumentsMember? ms = x := by
  unfold argumentsMember?
  rw [h]
  cases x with
  | none => rfl
  | some args =>
    simp only [Option.map_some, List.map_map, Option.some.injEq]
    conv => rhs; rw [← List.map_id args]
    apply List.map_congr_left
    intro a _
    rw [Function.comp_apply, MethodArgument.toValue_eq]
    exact MethodArgument.ofMembers_toValue a

/-- **Reading the members a message writes gives the message back**, when its other members are
in key order and none of them has a known name. -/
theorem Message.ofMembers_writtenMembers (fresh : String) {m : Message} (hs : Members.Sorted m.extra)
    (hextra : ∀ p ∈ m.extra, p.1 ∉ Message.fieldNames) :
    Message.ofMembers fresh (Members.ofList m.writtenMembers) = m := by
  have hfind := Message.find?_writtenMembers hs hextra
  -- the other members are those under keys that are not known
  have hrest : (Members.ofList m.writtenMembers).filter (fun p => !Message.fieldNames.contains p.1) = m.extra := by
    apply Members.eq_of_find? ((Members.sorted_ofList _).filter _) hs
    intro j
    rw [Members.find?_filter j (fun k => !Message.fieldNames.contains k), hfind]
    by_cases hj : j ∈ Message.fieldNames
    · have hc : Message.fieldNames.contains j = true := by simpa using hj
      simp only [hc, Bool.not_true, Bool.false_eq_true, if_false]
      exact (Members.find?_eq_none_of_not_mem fun p hp heq => hextra p hp (heq ▸ hj)).symm
    · have hc : Message.fieldNames.contains j = false := by simpa using hj
      simp only [hc, Bool.not_false, if_true, Message.written_of_not_mem m hj]
  have hid : textMember? (Members.ofList m.writtenMembers) "_msgid" = some m.msgId :=
    textMember?_eq ((hfind "_msgid").trans rfl)
  have htopic := textMember?_eq ((hfind "topic").trans rfl)
  have hdatatype := textMember?_eq ((hfind "datatype").trans rfl)
  have hbrowse := textMember?_eq ((hfind "browseName").trans rfl)
  have htypes := textMember?_eq ((hfind "eventTypeIds").trans rfl)
  have hobject := textMember?_eq ((hfind "objectId").trans rfl)
  have hmethod := textMember?_eq ((hfind "methodId").trans rfl)
  have hfields := textsMember?_eq ((hfind "eventFields").trans rfl)
  have hargs := argumentsMember?_eq ((hfind "inputArguments").trans rfl)
  obtain ⟨msgId, topic, datatype, browseName, payload, eventFilter, eventFields, eventTypeIds, objectId,
    methodId, inputArguments, extra⟩ := m
  simp only [Message.ofMembers, hid, htopic, hdatatype, hbrowse, htypes, hobject, hmethod, hfields, hargs, hrest,
    hfind "payload", hfind "eventFilter", Option.getD_some]
  rfl

/-! ## Messages that their text carries -/

/-- A message whose JSON text carries it exactly: its other members are in key order and none of
them has a known name, every value it holds is canonical, its event filter is not `null` (which
reads as absent), and its JSON form nests less deep than the reader allows. -/
structure Message.WellFormed (m : Message) : Prop where
  extra_sorted : Members.Sorted m.extra
  extra_unknown : ∀ p ∈ m.extra, p.1 ∉ Message.fieldNames
  extra_canonical : ∀ p ∈ m.extra, p.2.Canonical
  payload_canonical : m.payload.Canonical
  eventFilter_canonical : ∀ v ∈ m.eventFilter, v.Canonical ∧ v ≠ .null
  arguments_canonical : ∀ args ∈ m.inputArguments, ∀ a ∈ args, a.value.Canonical
  depth_lt : m.toValue.depth < 128

theorem mem_presentMember {p : String × Value} {k : String} {x : Option Value} (hp : p ∈ presentMember k x) :
    ∃ v, x = some v ∧ p = (k, v) := by
  cases x with
  | none => cases hp
  | some v =>
    rw [presentMember, List.mem_singleton] at hp
    exact ⟨v, rfl, hp⟩

theorem Message.fieldTyped_of_not_mem {k : String} (hk : k ∉ Message.fieldNames) (v : Value) :
    Message.FieldTyped k v := by
  simp only [Message.fieldNames, List.mem_cons, List.not_mem_nil, or_false, not_or] at hk
  simp [Message.FieldTyped, Message.textNames, hk]

theorem Value.isNull_eq_false {v : Value} (hv : v ≠ .null) : v.isNull = false := by
  cases v with
  | null => exact absurd rfl hv
  | _ => rfl

theorem Message.written_text {k : String} (hk : k ∈ Message.textNames) {x : Option String}
    {p : String × Value} (hp : p ∈ presentMember k (x.map .str)) :
    Message.FieldTyped p.1 p.2 ∧ p.2.Canonical ∧ Message.fieldRead p.1 p.2 = some p.2 := by
  obtain ⟨v, hv, rfl⟩ := mem_presentMember hp
  obtain ⟨t, -, rfl⟩ := Option.map_eq_some_iff.mp hv
  exact ⟨(Message.fieldTyped_text hk _).mpr (.inr ⟨t, rfl⟩), trivial, Message.fieldRead_of_not_null k rfl⟩

/-- Each member a well-formed message writes has the kind its field declares, is canonical, and is
read as itself. -/
theorem Message.WellFormed.written {m : Message} (hm : m.WellFormed) {p : String × Value}
    (hp : p ∈ m.writtenMembers) :
    Message.FieldTyped p.1 p.2 ∧ p.2.Canonical ∧ Message.fieldRead p.1 p.2 = some p.2 := by
  simp only [Message.writtenMembers, List.mem_append, List.mem_singleton] at hp
  rcases hp with ((((((((((((rfl | hp) | hp) | hp) | hp) | rfl) | hp) | hp) | hp) | hp) | hp) | hp) | hp)
  · exact ⟨⟨m.msgId, rfl⟩, trivial, rfl⟩
  · exact Message.written_text (by simp [Message.textNames]) hp
  · exact Message.written_text (by simp [Message.textNames]) hp
  · exact Message.written_text (by simp [Message.textNames]) hp
  · exact ⟨by simp [Message.FieldTyped, Message.textNames], hm.payload_canonical,
      Message.fieldRead_of_not_optional (show ("payload" : String) ∉ Message.optionalNames by decide) _⟩
  · obtain ⟨v, hv, rfl⟩ := mem_presentMember hp
    obtain ⟨hcv, hne⟩ := hm.eventFilter_canonical v hv
    exact ⟨by simp [Message.FieldTyped, Message.textNames], hcv,
      Message.fieldRead_of_not_null _ (Value.isNull_eq_false hne)⟩
  · obtain ⟨v, hv, rfl⟩ := mem_presentMember hp
    obtain ⟨fs, -, rfl⟩ := Option.map_eq_some_iff.mp hv
    refine ⟨by simp [Message.FieldTyped, Message.textNames], ?_, rfl⟩
    show ItemsCanonical _
    rw [itemsCanonical_iff]
    intro y hy
    obtain ⟨t, -, rfl⟩ := List.mem_map.mp hy
    trivial
  · exact Message.written_text (by simp [Message.textNames]) hp
  · exact Message.written_text (by simp [Message.textNames]) hp
  · exact Message.written_text (by simp [Message.textNames]) hp
  · obtain ⟨v, hv, rfl⟩ := mem_presentMember hp
    obtain ⟨args, hargs, rfl⟩ := Option.map_eq_some_iff.mp hv
    refine ⟨by simp [Message.FieldTyped, Message.textNames], ?_, rfl⟩
    show ItemsCanonical _
    rw [itemsCanonical_iff]
    intro y hy
    obtain ⟨a, ha, rfl⟩ := List.mem_map.mp hy
    exact MethodArgument.canonical_toValue (hm.arguments_canonical args hargs a ha)
  · exact ⟨Message.fieldTyped_of_not_mem (hm.extra_unknown p hp) _, hm.extra_canonical p hp,
      Message.fieldRead_of_not_optional
        (fun hk => hm.extra_unknown p hp (Message.mem_fieldNames_of_optional _ hk)) _⟩

/-- **A well-formed message reads back from its JSON text as itself.** -/
theorem Message.ofText_toValue_render (fresh : String) {m : Message} (hm : m.WellFormed) :
    Message.ofText fresh m.toValue.render = .ok m := by
  have hmem : ∀ p ∈ Members.ofList m.writtenMembers, p ∈ m.writtenMembers := fun _ hp =>
    Members.mem_of_mem_ofList hp
  have hcanon : MembersCanonical (Members.ofList m.writtenMembers) :=
    membersCanonical_iff.mpr fun p hp => (hm.written (hmem p hp)).2.1
  have htyped : ∀ p ∈ Members.ofList m.writtenMembers, Message.FieldTyped p.1 p.2 := fun p hp =>
    (hm.written (hmem p hp)).1
  -- no member it writes is an optional field holding `null`, so reading keeps them all
  have hpresent : Message.presentMembers (Members.ofList m.writtenMembers) = Members.ofList m.writtenMembers :=
    Message.presentMembers_eq_self fun p hp => (hm.written (hmem p hp)).2.2
  have hdepth : (Value.obj (Members.ofList m.writtenMembers)).depth < 128 := hm.depth_lt
  rw [Message.ofText, Message.toValue_eq, Message.readText_render (Members.sorted_ofList _) hcanon hdepth htyped,
    hpresent]
  simp only [Except.map, Message.ofDecoded]
  rw [Message.ofMembers_writtenMembers fresh hm.extra_sorted hm.extra_unknown]

/-! ## The object a message read from a typed object writes -/

/-- The members of a message's object with its defaults filled in: `null` under `payload` and a
fresh id under `_msgid`, where they are absent. -/
def Message.withDefaults (fresh : String) (ms : List (String × Value)) : List (String × Value) :=
  Members.withDefault "_msgid" (.str fresh) (Members.withDefault "payload" .null ms)

theorem Message.find?_withDefaults (fresh j : String) (ms : List (String × Value)) :
    Members.find? j (Message.withDefaults fresh ms) =
      if j = "_msgid" then some ((Members.find? "_msgid" ms).getD (.str fresh))
      else if j = "payload" then some ((Members.find? "payload" ms).getD .null)
      else Members.find? j ms := by
  have hne : ("_msgid" : String) ≠ "payload" := by decide
  simp only [Message.withDefaults, Members.find?_withDefault, hne, if_false]

theorem textMember?_map {ms : List (String × Value)} {k : String}
    (h : ∀ v, Members.find? k ms = some v → ∃ t, v = .str t) :
    (textMember? ms k).map .str = Members.find? k ms := by
  cases hf : Members.find? k ms with
  | none => rw [textMember?_eq (x := none) hf]; rfl
  | some v =>
    obtain ⟨t, rfl⟩ := h _ hf
    rw [textMember?_eq (x := some t) hf]; rfl

theorem textsMember?_map {ms : List (String × Value)} {k : String}
    (h : ∀ v, Members.find? k ms = some v → ∃ ts : List String, v = .arr (ts.map .str)) :
    (textsMember? ms k).map (fun ts => .arr (ts.map .str)) = Members.find? k ms := by
  cases hf : Members.find? k ms with
  | none => rw [textsMember?_eq (x := none) hf]; rfl
  | some v =>
    obtain ⟨ts, rfl⟩ := h _ hf
    rw [textsMember?_eq (x := some ts) hf]; rfl

theorem argumentsMember?_map {ms : List (String × Value)}
    (h : ∀ v, Members.find? "inputArguments" ms = some v →
      ∃ args : List MethodArgument, v = .arr (args.map MethodArgument.toValue)) :
    (argumentsMember? ms).map (fun args => .arr (args.map MethodArgument.toValue)) =
      Members.find? "inputArguments" ms := by
  cases hf : Members.find? "inputArguments" ms with
  | none => rw [argumentsMember?_eq (x := none) hf]; rfl
  | some v =>
    obtain ⟨args, rfl⟩ := h _ hf
    rw [argumentsMember?_eq (x := some args) hf]; rfl

/-- Each member that reading an object as a message keeps has the kind its field declares and is
read as itself. -/
theorem Message.mem_presentMembers {ms : List (String × Value)}
    (htyped : ∀ p ∈ ms, Message.FieldTyped p.1 p.2) {p : String × Value} (hp : p ∈ Message.presentMembers ms) :
    Message.FieldTyped p.1 p.2 ∧ Message.fieldRead p.1 p.2 = some p.2 := by
  obtain ⟨⟨k, w⟩, hw, hread⟩ := List.mem_filterMap.mp hp
  obtain ⟨v, hv, rfl⟩ := Option.map_eq_some_iff.mp hread
  -- a kept member is read as the value it had
  have hwv : w = v := by
    unfold Message.fieldRead at hv
    split at hv
    · cases hv
    · exact Option.some.inj hv
  subst hwv
  exact ⟨htyped _ hw, hv⟩

/-- **Writing the message read from typed members gives them back with the defaults filled in**,
when the members are in key order and none is an optional field holding `null`. -/
theorem Message.toValue_ofMembers (fresh : String) {ms : List (String × Value)} (hs : Members.Sorted ms)
    (hms : ∀ p ∈ ms, Message.FieldTyped p.1 p.2 ∧ Message.fieldRead p.1 p.2 = some p.2) :
    (Message.ofMembers fresh ms).toValue = .obj (Message.withDefaults fresh ms) := by
  have hfound : ∀ {k v}, Members.find? k ms = some v →
      Message.FieldTyped k v ∧ Message.fieldRead k v = some v := fun h => hms _ (Members.mem_of_find? h)
  -- under an optional field the value found is not `null`, so it has the kind the field declares
  have hpresent : ∀ {k v}, k ∈ Message.optionalNames → Members.find? k ms = some v → v ≠ .null := by
    rintro k v hk h rfl
    have := (hfound h).2
    rw [Message.fieldRead_null hk] at this
    cases this
  -- under each known field the value found has the kind the field declares
  have hid : ∀ v, Members.find? "_msgid" ms = some v → ∃ t, v = .str t := fun v h => by
    simpa [Message.FieldTyped] using (hfound h).1
  have hkind : ∀ {k v}, k ∈ Message.optionalNames → Members.find? k ms = some v →
      Message.FieldTyped k v ∧ v ≠ .null := fun hk h => ⟨(hfound h).1, hpresent hk h⟩
  have htext : ∀ k ∈ Message.textNames, ∀ v, Members.find? k ms = some v → ∃ t, v = .str t := by
    intro k hk v h
    obtain ⟨htyped, hnull⟩ := hkind (Message.mem_optionalNames_of_text hk) h
    exact ((Message.fieldTyped_text hk v).mp htyped).resolve_left hnull
  have htexts : ∀ v, Members.find? "eventFields" ms = some v → ∃ ts : List String, v = .arr (ts.map .str) := by
    intro v h
    obtain ⟨htyped, hnull⟩ := hkind (by simp [Message.optionalNames]) h
    simp [Message.FieldTyped, Message.textNames] at htyped
    exact htyped.resolve_left hnull
  have hargs : ∀ v, Members.find? "inputArguments" ms = some v →
      ∃ args : List MethodArgument, v = .arr (args.map MethodArgument.toValue) := by
    intro v h
    obtain ⟨htyped, hnull⟩ := hkind (by simp [Message.optionalNames]) h
    simp [Message.FieldTyped, Message.textNames] at htyped
    exact htyped.resolve_left hnull
  have hextra : ∀ p ∈ (Message.ofMembers fresh ms).extra, p.1 ∉ Message.fieldNames := by
    intro p hp
    simpa using (List.mem_filter.mp hp).2
  rw [Message.toValue_eq]
  congr 1
  refine Members.eq_of_find? (Members.sorted_ofList _) ?_ fun j => ?_
  · exact (hs.withDefault _ _).withDefault _ _
  rw [Message.find?_writtenMembers (hs.filter _) hextra j, Message.find?_withDefaults]
  by_cases hj : j ∈ Message.fieldNames
  · -- a known field writes back what was found under it; `payload` and `eventFilter` as they are
    unfold Message.written
    simp only [Message.fieldNames, List.mem_cons, List.not_mem_nil, or_false] at hj
    rcases hj with rfl | rfl | rfl | rfl | rfl | rfl | rfl | rfl | rfl | rfl | rfl
    all_goals simp [Message.ofMembers]
    · rw [← textMember?_map hid, Option.getD_map]
    any_goals exact textMember?_map (htext _ (by simp [Message.textNames]))
    · exact textsMember?_map htexts
    · exact argumentsMember?_map hargs
  · -- any other member is kept as it is
    have hc : Message.fieldNames.contains j = false := by simpa using hj
    have h1 : j ≠ "_msgid" := by
      rintro rfl
      exact hj (by simp [Message.fieldNames])
    have h2 : j ≠ "payload" := by
      rintro rfl
      exact hj (by simp [Message.fieldNames])
    rw [Message.written_of_not_mem _ hj, Message.ofMembers,
      Members.find?_filter j (fun k => !Message.fieldNames.contains k)]
    simp only [hc, Bool.not_false, if_true, h1, h2, if_false]

/-- **Reading a typed object as a message succeeds, puts no known field among the other members,
and writes back the object with its defaults filled in**: the optional fields holding `null`
dropped, `null` under `payload` and a fresh id under `_msgid` where absent. -/
theorem Message.ofText_render_typed (fresh : String) {ms : List (String × Value)} (hs : Members.Sorted ms)
    (hcanon : MembersCanonical ms) (hdepth : (Value.obj ms).depth < 128)
    (htyped : ∀ p ∈ ms, Message.FieldTyped p.1 p.2) :
    ∃ m, Message.ofText fresh (Value.obj ms).render = .ok m ∧ (∀ p ∈ m.extra, p.1 ∉ Message.fieldNames) ∧
      m.toValue = .obj (Message.withDefaults fresh (Message.presentMembers ms)) := by
  refine ⟨Message.ofMembers fresh (Message.presentMembers ms), ?_, ?_, ?_⟩
  · rw [Message.ofText, Message.readText_render hs hcanon hdepth htyped]
    rfl
  · intro p hp
    simpa using (List.mem_filter.mp hp).2
  · exact Message.toValue_ofMembers fresh (hs.filterMap_key _) fun p hp => Message.mem_presentMembers htyped hp

/-- **Writing a message and reading it back are inverse on the envelope**: a well-formed message
reads back from its text as itself, and a typed object read as a message writes back as itself
with its defaults filled in and its `null` optional fields dropped. -/
theorem Message.ofText_render_roundTrip (fresh : String) :
    (∀ m : Message, m.WellFormed → Message.ofText fresh m.toValue.render = .ok m) ∧
    (∀ ms : List (String × Value), Members.Sorted ms → MembersCanonical ms → (Value.obj ms).depth < 128 →
      (∀ p ∈ ms, Message.FieldTyped p.1 p.2) →
      ∃ m, Message.ofText fresh (Value.obj ms).render = .ok m ∧ (∀ p ∈ m.extra, p.1 ∉ Message.fieldNames) ∧
        m.toValue = .obj (Message.withDefaults fresh (Message.presentMembers ms))) :=
  ⟨fun _ hm => Message.ofText_toValue_render fresh hm,
    fun _ hs hcanon hdepth htyped => Message.ofText_render_typed fresh hs hcanon hdepth htyped⟩

theorem Message.ofText_render_roundTrip_topic :
    ({ msgId := "a", topic := some "t", extra := [("note", .bool false)] } : Message).WellFormed ∧
      Message.ofText "f" ({ msgId := "a", topic := some "t", extra := [("note", .bool false)] } :
        Message).toValue.render = .ok { msgId := "a", topic := some "t", extra := [("note", .bool false)] } ∧
      ∃ m, Message.ofText "f" (Value.obj [("note", .str "b"), ("topic", .null)]).render = .ok m ∧
        (∀ p ∈ m.extra, p.1 ∉ Message.fieldNames) ∧
        m.toValue = .obj (Message.withDefaults "f" (Message.presentMembers [("note", .str "b"), ("topic", .null)])) := by
  have hm : ({ msgId := "a", topic := some "t", extra := [("note", .bool false)] } : Message).WellFormed :=
    { extra_sorted := List.pairwise_singleton _ _
      extra_unknown := by decide
      extra_canonical := by simp [Value.Canonical]
      payload_canonical := trivial
      eventFilter_canonical := by simp
      arguments_canonical := by simp
      depth_lt := by decide }
  obtain ⟨hwritten, htyped⟩ := Message.ofText_render_roundTrip "f"
  refine ⟨hm, hwritten _ hm, htyped _ (by unfold Members.Sorted; decide) ?_ (by decide) ?_⟩
  · simp [MembersCanonical, Value.Canonical]
  · simp [Message.FieldTyped, Message.textNames]

/-- A payload object whose one member is under the number marker does not come back: the reader
takes it for the number its member spells. -/
theorem Message.ofText_numberMarker_payload :
    Message.ofText "f" ({ msgId := "a", payload := .obj [(numberMarker, .str "1")] } : Message).toValue.render ≠
      .ok { msgId := "a", payload := .obj [(numberMarker, .str "1")] } := by
  intro h
  -- the payload comes back as the number its one member spells, and is written back as such
  have hread : (Message.ofText "f" ({ msgId := "a", payload := .obj [(numberMarker, .str "1")] } :
      Message).toValue.render).toOption.map (fun m => m.toValue.render) =
      some "\x7b\"_msgid\":\"a\",\"payload\":1\x7d" := by decide +kernel
  rw [h] at hread
  exact absurd hread (by decide)

end UaFlow.Flow
