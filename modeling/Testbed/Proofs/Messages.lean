/-
This file proves that the messages of the edge registry are read as they were written. A form names,
for each field that it writes, what taking the field does to a message; a message is read by taking
its fields, one after another, into the empty one. An empty text writes no field and leaves the
empty text of that message, while the elements of a list are always written, also the empty ones,
and each is taken behind those before it. The lists are taken by induction, and the messages inside
a message as messages of their own.
-/

import Testbed.Edges.Message
import Testbed.Proofs.Fields

namespace Testbed

variable {Message Part Item : Type}

/-! ### Forms -/

namespace Wire.Form

variable {form : Form Message} {levels : Nat} {first second : List (Nat × List UInt8)}
  {message middle after other : Message}

/-- Whether the bytes of each field can be counted in 64 bits. -/
def Fits (form : Form Message) (message : Message) : Prop :=
  ∀ field ∈ form.fields message, Wire.Fits field

/-- Fields that have numbers and that lead from one message to another when they are taken. -/
structure Leads (form : Form Message) (levels : Nat) (fields : List (Nat × List UInt8))
    (message after : Message) : Prop where
  numbered : ∀ field ∈ fields, IsNumbered field
  taken : (fields.map fun field => (field.1, some field.2)).foldlM (form.takeField levels) message =
    some after

theorem Leads.nil (message : Message) : form.Leads levels [] message message :=
  ⟨fun _ => nofun, rfl⟩

theorem Leads.append (before : form.Leads levels first message middle)
    (behind : form.Leads levels second middle after) :
    form.Leads levels (first ++ second) message after where
  numbered := List.forall_mem_append.2 ⟨before.numbered, behind.numbered⟩
  taken := by
    rw [List.map_append, List.foldlM_append, before.taken]
    exact behind.taken

theorem Leads.field {number : Nat} {bytes : List UInt8}
    {take : List UInt8 → Message → Option Message}
    (numbered : IsNumbered (number, bytes)) (known : form.take levels number = some take)
    (taken : take bytes message = some after) :
    form.Leads levels [(number, bytes)] message after where
  numbered := List.forall_mem_singleton.2 numbered
  taken := by
    have single : form.takeField levels message (number, some bytes) = some after := by
      simp only [takeField, known, taken]
    rw [List.map_singleton, List.foldlM_cons, single]
    rfl

/-- A form whose messages are read as they were written, as far as their bytes can be counted. -/
structure IsRegular (form : Form Message) : Prop where
  numbered : ∀ message, ∀ field ∈ form.fields message, IsNumbered field
  leads : ∀ levels message, form.Fits message →
    form.Leads levels (form.fields message) form.empty message
  distinct : Function.Injective form.fields

/-- Fields that lead to a message whether or not their bytes can be counted tell the message. -/
theorem isRegular_of_leads
    (leads : ∀ levels message, form.Leads levels (form.fields message) form.empty message) :
    form.IsRegular where
  numbered message := (leads 0 message).numbered
  leads levels message _ := leads levels message
  distinct first second same := by
    have taken := (leads 0 first).taken
    rw [show form.fields first = form.fields second from same, (leads 0 second).taken] at taken
    exact (Option.some.inj taken).symm

/-- What is read of the bytes of a message is the message, and it is read if and only if the bytes
of its fields can be counted. -/
theorem IsRegular.mergeWithin_encode_iff (regular : form.IsRegular) (levels : Nat)
    (message read : Message) :
    form.mergeWithin levels form.empty (form.encode message) = some read ↔
      form.Fits message ∧ read = message := by
  have fields := fields?_flatMap_eq_some_iff levels (regular.numbered message)
  unfold mergeWithin encode
  cases readFields : fields? levels ((form.fields message).flatMap fieldBytes) with
  | none =>
    refine ⟨nofun, fun ⟨fits, _⟩ => ?_⟩
    rw [(fields _).2 ⟨fits, rfl⟩] at readFields
    cases readFields
  | some written =>
    obtain ⟨fits, rfl⟩ := (fields written).1 readFields
    show List.foldlM _ _ _ = some read ↔ _
    rw [(regular.leads levels message fits).taken, Option.some_inj]
    exact ⟨fun same => ⟨fits, same.symm⟩, fun ⟨_, same⟩ => same.symm⟩

/-- The bytes of each field are part of the bytes of the message. -/
theorem fits_of_length_lt (short : (form.encode message).length < numberLimit) :
    form.Fits message := by
  intro field member
  have inside : (fieldBytes field).length ≤ (form.encode message).length := by
    rw [encode, List.flatMap_def]
    exact (List.sublist_flatten_of_mem (List.mem_map_of_mem member)).length_le
  exact Nat.lt_trans (Nat.lt_of_lt_of_le (length_fieldBytes field) inside) short

/-- A form whose messages are read as they were written and written each in its own way. -/
structure IsFaithful (form : Form Message) : Prop where
  /-- What is read of the bytes of a message is that message. It is read unless a field of it has
  more bytes than a number of 64 bits counts, which no value in the memory of a machine has. -/
  decode_encode_iff : ∀ message read, form.decode? (form.encode message) = some read ↔
    form.Fits message ∧ read = message
  /-- Different messages have different bytes. -/
  encode_injective : Function.Injective form.encode

theorem IsRegular.isFaithful (regular : form.IsRegular) : form.IsFaithful where
  decode_encode_iff := regular.mergeWithin_encode_iff greatestLevels
  encode_injective _ _ same := regular.distinct (flatMap_fieldBytes_injective same)

end Wire.Form

namespace Edges

open Wire Text

/-! ### The fields of a message -/

section Fields

variable {form : Form Message} {levels number : Nat}

/-- The numbers of fields are small. -/
abbrev IsFieldNumber (number : Nat) : Prop := 0 < number ∧ number < 0x20000000

theorem isNumbered {bytes : List UInt8} (isNumber : IsFieldNumber number) :
    IsNumbered (number, bytes) :=
  ⟨isNumber.1, isNumber.2⟩

/-- A text is placed in a message. If it is empty, the message holds the empty text already. -/
theorem leads_textField (number : Nat) {place : String → Message → Message}
    {message after : Message} (isNumber : IsFieldNumber number)
    (known : form.take levels number = some (takeText place))
    (holdsEmpty : place "" message = message) (text : String)
    (placed : place text message = after) :
    form.Leads levels (textField number text) message after := by
  subst placed
  unfold textField
  split
  case isTrue isEmpty =>
    rw [String.isEmpty_iff.1 isEmpty, holdsEmpty]
    exact .nil message
  case isFalse =>
    refine .field (isNumbered isNumber) known ?_
    rw [takeText, ofBytes?_bytesOf, Option.map_some]

/-- Items are placed in a message one behind the other, each by a field of its own. -/
theorem leads_items {bytes : Item → List UInt8} {take : List UInt8 → Message → Option Message}
    (isNumber : IsFieldNumber number) (known : form.take levels number = some take)
    (holding : List Item → Message) (items before : List Item)
    (adds : ∀ item ∈ items, ∀ before,
      take (bytes item) (holding before) = some (holding (before ++ [item]))) :
    form.Leads levels (items.map fun item => (number, bytes item)) (holding before)
      (holding (before ++ items)) := by
  induction items generalizing before with
  | nil =>
    rw [List.append_nil]
    exact .nil _
  | cons item items inductionHypothesis =>
    obtain ⟨first, others⟩ := List.forall_mem_cons.1 adds
    have one : form.Leads levels [(number, bytes item)] (holding before)
        (holding (before ++ [item])) := .field (isNumbered isNumber) known (first before)
    have further := inductionHypothesis (before ++ [item]) others
    rw [List.append_assoc] at further
    exact one.append further

theorem leads_textFields (number : Nat) {place : String → Message → Message}
    (isNumber : IsFieldNumber number)
    (known : form.take levels number = some (takeText place)) (holding : List String → Message)
    (adds : ∀ text before, place text (holding before) = holding (before ++ [text]))
    (texts : List String) :
    form.Leads levels (textFields number texts) (holding []) (holding texts) :=
  leads_items isNumber known holding texts [] fun text _ before => by
    rw [takeText, ofBytes?_bytesOf, Option.map_some, adds]

/-- A message that consists of messages of a regular form is regular. -/
theorem isRegular_of_parts {part : Form Part} (regular : part.IsRegular) (number : Nat)
    (isNumber : IsFieldNumber number) (holding : List Part → Message) (parts : Message → List Part)
    (held : ∀ message, holding (parts message) = message) {place : Part → Message → Message}
    (adds : ∀ item before, place item (holding before) = holding (before ++ [item]))
    (empty : form.empty = holding [])
    (fields : ∀ message, form.fields message = messageFields number part (parts message))
    (known : ∀ levels, form.take levels number = some (takeMessage levels part place)) :
    form.IsRegular where
  numbered message field member := by
    rw [fields] at member
    obtain ⟨item, -, rfl⟩ := List.mem_map.1 member
    exact isNumbered isNumber
  leads levels message fits := by
    rw [Form.Fits, fields] at fits
    have placed (item : Part) (member : item ∈ parts message) (before : List Part) :
        takeMessage levels part place (part.encode item) (holding before) =
          some (holding (before ++ [item])) := by
      have short : (part.encode item).length < numberLimit := fits _ (List.mem_map_of_mem member)
      have read := (regular.mergeWithin_encode_iff (levels - 1) item item).2
        ⟨Form.fits_of_length_lt short, rfl⟩
      rw [takeMessage, read, Option.map_some, adds]
    have leads := leads_items isNumber (known levels) holding (parts message) [] placed
    rw [List.nil_append, held, ← empty] at leads
    rw [fields]
    exact leads
  distinct first second same := by
    have sameFields : (parts first).map (fun item => (number, part.encode item)) =
        (parts second).map fun item => (number, part.encode item) := by
      rw [← messageFields, ← messageFields, ← fields, ← fields]
      exact same
    have sameParts : parts first = parts second :=
      (List.map_inj_right fun _ _ sameField =>
        regular.isFaithful.encode_injective (Prod.mk.inj sameField).2).1 sameFields
    rw [← held first, ← held second, sameParts]

end Fields

/-! ### The messages -/

theorem Empty.isRegular : Empty.form.IsRegular :=
  Form.isRegular_of_leads fun _ _ => .nil _

theorem SchemaRelation.isRegular : SchemaRelation.form.IsRegular :=
  Form.isRegular_of_leads fun _ relation =>
    (leads_textField 1 (by decide) rfl rfl relation.parentSchema rfl).append
      (leads_textField 2 (by decide) rfl rfl relation.childSchema rfl)

theorem RelationId.isRegular : RelationId.form.IsRegular :=
  Form.isRegular_of_leads fun _ message =>
    leads_textField 1 (by decide) rfl rfl message.relation rfl

theorem RelationDetails.isRegular : RelationDetails.form.IsRegular :=
  Form.isRegular_of_leads fun _ details =>
    (leads_textField 1 (by decide) rfl rfl details.relation rfl).append
      ((leads_textField 2 (by decide) rfl rfl details.parentSchema rfl).append
        (leads_textField 3 (by decide) rfl rfl details.childSchema rfl))

theorem RelationList.isRegular : RelationList.form.IsRegular :=
  isRegular_of_parts RelationDetails.isRegular 1 (by decide) (fun items => { items }) items
    (fun _ => rfl) (fun _ _ => rfl) rfl (fun _ => rfl) fun _ => rfl

theorem Edge.isRegular : Edge.form.IsRegular :=
  Form.isRegular_of_leads fun _ edge =>
    (leads_textField 1 (by decide) rfl rfl edge.relation rfl).append
      ((leads_textField 2 (by decide) rfl rfl edge.parentObject rfl).append
        (leads_textFields 3 (by decide) rfl
          (fun childObjects => { edge with childObjects }) (fun _ _ => rfl) edge.childObjects))

theorem ObjectRelations.isRegular : ObjectRelations.form.IsRegular :=
  isRegular_of_parts Edge.isRegular 1 (by decide) (fun relations => { relations }) relations
    (fun _ => rfl) (fun _ _ => rfl) rfl (fun _ => rfl) fun _ => rfl

theorem RelationIdQuery.isRegular : RelationIdQuery.form.IsRegular :=
  Form.isRegular_of_leads fun _ query =>
    (leads_textField 1 (by decide) rfl rfl query.relation rfl).append
      (leads_textField 2 (by decide) rfl rfl query.parentObject rfl)

theorem ObjectIdQuery.isRegular : ObjectIdQuery.form.IsRegular :=
  Form.isRegular_of_leads fun _ query => leads_textField 1 (by decide) rfl rfl query.object rfl

/-! ### Edges between identified objects -/

theorem length_bytesOf_le (text : String) : (bytesOf text).length ≤ 4 * text.toList.length := by
  rw [bytesOf_eq]
  induction text.toList with
  | nil => exact Nat.le_refl _
  | cons character rest inductionHypothesis =>
    have size := character.utf8Size_le_four
    rw [List.flatMap_cons, List.length_append, String.length_utf8EncodeChar, List.length_cons]
    omega

/-- The text of an identifier has 36 characters, whose bytes can be counted. -/
theorem length_bytesOf_text_lt (identifier : Uuid) :
    (bytesOf identifier.text).length < numberLimit := by
  have characters : identifier.text.toList.length = 36 := by
    simp [Uuid.text, Uuid.hyphenated, Uuid.digits]
  have bound := length_bytesOf_le identifier.text
  rw [characters] at bound
  exact Nat.lt_of_le_of_lt bound (by decide)

theorem fits_ofIdentifiers (relation parentObject : Uuid) (childObjects : List Uuid) :
    Edge.form.Fits (Edge.ofIdentifiers relation parentObject childObjects) := by
  have field (number : Nat) (identifier : Uuid) :
      ∀ field ∈ textField number identifier.text, Wire.Fits field := by
    intro field member
    unfold textField at member
    split at member
    · cases member
    · rw [List.mem_singleton.1 member]
      exact length_bytesOf_text_lt identifier
  refine List.forall_mem_append.2 ⟨field 1 relation,
    List.forall_mem_append.2 ⟨field 2 parentObject, ?_⟩⟩
  intro child member
  obtain ⟨_, isChild, rfl⟩ := List.mem_map.1 member
  obtain ⟨identifier, -, rfl⟩ := List.mem_map.1 isChild
  exact length_bytesOf_text_lt identifier

/-- Every message of the edge registry is read as it was written, with the elements of its lists in
their order, and different messages of a kind are written differently. The children of an edge
arrive in the order in which they were given. -/
theorem messages_account :
    Empty.form.IsFaithful ∧ SchemaRelation.form.IsFaithful ∧ RelationId.form.IsFaithful ∧
      RelationDetails.form.IsFaithful ∧ RelationList.form.IsFaithful ∧ Edge.form.IsFaithful ∧
      ObjectRelations.form.IsFaithful ∧ RelationIdQuery.form.IsFaithful ∧
      ObjectIdQuery.form.IsFaithful ∧
      ∀ relation parentObject childObjects, ∃ edge,
        Edge.form.decode? (Edge.form.encode
          (Edge.ofIdentifiers relation parentObject childObjects)) = some edge ∧
        edge.relation = relation.text ∧ edge.parentObject = parentObject.text ∧
        edge.childObjects = childObjects.map Uuid.text := by
  refine ⟨Empty.isRegular.isFaithful, SchemaRelation.isRegular.isFaithful,
    RelationId.isRegular.isFaithful, RelationDetails.isRegular.isFaithful,
    RelationList.isRegular.isFaithful, Edge.isRegular.isFaithful,
    ObjectRelations.isRegular.isFaithful, RelationIdQuery.isRegular.isFaithful,
    ObjectIdQuery.isRegular.isFaithful, fun relation parentObject childObjects => ?_⟩
  have read := (Edge.isRegular.isFaithful.decode_encode_iff _ _).2
    ⟨fits_ofIdentifiers relation parentObject childObjects, rfl⟩
  exact ⟨_, read, rfl, rfl, rfl⟩

end Edges

end Testbed
