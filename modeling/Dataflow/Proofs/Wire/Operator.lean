import Dataflow.Proofs.Json.Decoder
import Dataflow.Wire.Operator

/-!
# Operators that are written and read

An operator of any kind reads back as itself, with all its options, if its numbers do. The numbers
of an operator that was read are those of a machine word, and finite doubles.
-/

namespace Dataflow

lemma Json.named?_string {α : Type} {all : List α} {name : α → String} {a : α}
    (h : all.find? (name · == name a) = some a) (emptyObject : Bool) (room : Nat) :
    named? all name emptyObject room (.string (name a)) = some a := by
  cases room <;> exact h

lemma AttributeType.ofJson?_toJson (type : AttributeType) (emptyObject : Bool) (room : Nat) :
    ofJson? emptyObject room type.toJson = some type := by
  apply Json.named?_string
  cases type <;> decide

lemma Matching.named?_tag (matching : Matching) (emptyObject : Bool) (room : Nat) :
    Json.named? all tag emptyObject room (.string matching.tag) = some matching := by
  apply Json.named?_string
  cases matching <;> decide

lemma EntityType.named?_tag (entity : EntityType) (emptyObject : Bool) (room : Nat) :
    Json.named? all tag emptyObject room (.string entity.tag) = some entity := by
  apply Json.named?_string
  cases entity <;> decide

lemma FunctionRole.named?_tag (role : FunctionRole) (emptyObject : Bool) (room : Nat) :
    Json.named? all tag emptyObject room (.string role.tag) = some role := by
  apply Json.named?_string
  cases role <;> decide

lemma Attribute.depth_toJson (a : Attribute) : a.toJson.depth = 1 :=
  rfl

lemma Attribute.proper_toJson (a : Attribute) : a.toJson.Proper :=
  .object (by simp [Json.Proper.string, AttributeType.toJson])

lemma Attribute.reads (a : Attribute) (emptyObject : Bool) :
    Decoder.Reads (ofJson? emptyObject) a.toJson a := by
  intro room
  rw [depth_toJson]
  cases room with
  | zero => rfl
  | succ room =>
    have hrecord := Json.record?_object [("name", .string a.name), ("type", a.type.toJson)]
      (by simp) room
    rw [if_pos (by omega), ofJson?, toJson]
    simp only [List.map_cons, List.map_nil] at hrecord
    simp only [hrecord, Json.required?, Option.bind_some, Json.string?,
      AttributeType.ofJson?_toJson]
    rfl

lemma textsToJson_reads (texts : List String) : Decoder.Reads texts? (textsToJson texts) texts := by
  apply Decoder.Reads.items?
  intro x _ room
  rfl

namespace OperatorKind

/-- The natural numbers of a kind. -/
def words : OperatorKind → List Nat
  | .userFunction f => f.batchSize :: f.workers.toList
  | .join _ _ threshold => [threshold]
  | .wordCloud limit => [limit]
  | _ => []

/-- The doubles of a kind. -/
def doubles : OperatorKind → List Binary64
  | .fuzzyMatcher _ _ threshold _ => [threshold]
  | _ => []

/-- The numbers of a kind read back as themselves. -/
structure Portable (kind : OperatorKind) : Prop where
  word_lt : ∀ n ∈ kind.words, n < 2 ^ 64
  readsBack : ∀ x ∈ kind.doubles, x.isFinite ∧ x.ReadsBack

lemma nodup_fields (id : OperatorId) (kind : OperatorKind) :
    ((("id", Json.string id) :: ("kind", .string kind.tag) :: kind.fields).map Prod.fst).Nodup := by
  cases kind <;> simp [fields]

/-- The fields of a kind are read back, if its numbers are. -/
lemma Portable.ofMembers?_fields {kind : OperatorKind} (h : kind.Portable) (id : OperatorId)
    {room : Nat} (hroom : Json.membersDepth kind.fields ≤ room) :
    ofMembers? room kind.tag (("id", Json.string id) :: ("kind", .string kind.tag) :: kind.fields) =
      some kind := by
  have hmember : ∀ field ∈ kind.fields, Json.member? (("id", Json.string id) ::
      ("kind", .string kind.tag) :: kind.fields) field.1 = some (some field.2) :=
    fun field hfield => Json.member?_of_mem (nodup_fields id kind) (by simp [hfield])
  have htexts (name : String) (texts : List String)
      (hfield : (name, textsToJson texts) ∈ kind.fields) :
      texts? room (textsToJson texts) = some texts := by
    rw [textsToJson_reads, if_pos]
    exact (Json.depth_le_of_mem hfield).trans hroom
  generalize (("id", Json.string id) :: ("kind", .string kind.tag) :: kind.fields) = members
    at hmember ⊢
  cases kind with
  | scanSource table =>
    simp only [fields, List.forall_mem_cons] at hmember
    simp [ofMembers?, tag, hmember, Json.required?, Json.string?]
  | keywordSource table query columns matching result =>
    have hcolumns := htexts "attributes" columns (by simp [fields])
    simp only [fields, List.forall_mem_cons] at hmember
    simp [ofMembers?, tag, hmember, Json.required?, Json.string?, hcolumns, Json.default?,
      Matching.named?_tag]
  | keywordMatcher query columns matching result =>
    have hcolumns := htexts "attributes" columns (by simp [fields])
    simp only [fields, List.forall_mem_cons] at hmember
    simp [ofMembers?, tag, hmember, Json.required?, Json.string?, hcolumns, Json.default?,
      Matching.named?_tag]
  | patternMatcher pattern columns result =>
    have hcolumns := htexts "attributes" columns (by simp [fields])
    simp only [fields, List.forall_mem_cons] at hmember
    simp [ofMembers?, tag, hmember, Json.required?, Json.string?, hcolumns]
  | fuzzyMatcher query columns threshold result =>
    have hcolumns := htexts "attributes" columns (by simp [fields])
    have hthreshold := Json.binary64?_binary64 (h.readsBack threshold List.mem_cons_self)
    simp only [fields, List.forall_mem_cons] at hmember
    simp [ofMembers?, tag, hmember, Json.required?, Json.string?, hcolumns, hthreshold]
  | entityMatcher entity columns result =>
    have hcolumns := htexts "attributes" columns (by simp [fields])
    simp only [fields, List.forall_mem_cons] at hmember
    simp [ofMembers?, tag, hmember, Json.required?, Json.string?, hcolumns, EntityType.named?_tag]
  | projection columns =>
    have hcolumns := htexts "attributes" columns (by simp [fields])
    simp only [fields, List.forall_mem_cons] at hmember
    simp [ofMembers?, tag, hmember, Json.required?, hcolumns]
  | typeCasting column target =>
    simp only [fields, List.forall_mem_cons] at hmember
    simp [ofMembers?, tag, hmember, Json.required?, Json.string?, AttributeType.ofJson?_toJson]
  | join innerColumn outerColumn threshold =>
    simp only [fields, List.forall_mem_cons] at hmember
    simp [ofMembers?, tag, hmember, Json.required?, Json.string?,
      Json.word?_nat (h.word_lt threshold List.mem_cons_self)]
  | wordCountPartial column =>
    simp only [fields, List.forall_mem_cons] at hmember
    simp [ofMembers?, tag, hmember, Json.required?, Json.string?]
  | wordCloud limit =>
    simp only [fields, List.forall_mem_cons] at hmember
    simp [ofMembers?, tag, hmember, Json.required?,
      Json.word?_nat (h.word_lt limit List.mem_cons_self)]
  | userFunction f =>
    have hinputs := htexts "input_columns" f.inputs (by simp [fields])
    have houtputs : Json.items? (Attribute.ofJson? true) room
        (.array (f.outputs.map Attribute.toJson)) = some f.outputs := by
      rw [Decoder.Reads.items? fun a _ => a.reads true, if_pos]
      exact (Json.depth_le_of_mem (show ("output_columns", _) ∈ _ by simp [fields])).trans hroom
    have hscript := Json.nullable?_string f.script
    have hbatch := Json.word?_nat (h.word_lt f.batchSize List.mem_cons_self)
    have hworkers := Json.nullable?_nat fun n hn =>
      h.word_lt n (List.mem_cons_of_mem _ (Option.mem_toList.mpr hn))
    simp only [fields, List.forall_mem_cons] at hmember
    simp [ofMembers?, functionOfMembers?, tag, hmember, Json.required?, Json.default?,
      FunctionRole.named?_tag, hinputs, houtputs, hscript, hbatch, hworkers]
  | tupleSink => rfl

lemma proper_texts (texts : List String) : (textsToJson texts).Proper :=
  .array_map fun text _ => .string text

lemma proper_attributes (attributes : List Attribute) :
    (Json.array (attributes.map Attribute.toJson)).Proper :=
  .array_map fun a _ => a.proper_toJson

/-- What a kind writes is a value that a text can hold. -/
lemma Portable.proper_fields {kind : OperatorKind} (h : kind.Portable) :
    ∀ field ∈ kind.fields, field.2.Proper := by
  cases kind with
  | userFunction f =>
    have hbatch := Json.proper_nat (h.word_lt f.batchSize List.mem_cons_self)
    have hworkers : (Json.optional .nat f.workers).Proper := by
      match hf : f.workers with
      | none => exact .null
      | some n =>
        exact Json.proper_nat (h.word_lt n (List.mem_cons_of_mem _ (Option.mem_toList.mpr hf)))
    have hscript : (Json.optional .string f.script).Proper := by
      cases f.script with
      | none => exact .null
      | some text => exact .string text
    simp [fields, Json.Proper.string, proper_texts, proper_attributes, hbatch, hworkers, hscript]
  | fuzzyMatcher query columns threshold result =>
    have hthreshold := Json.proper_binary64 (h.readsBack threshold List.mem_cons_self)
    simp [fields, Json.Proper.string, proper_texts, hthreshold]
  | join innerColumn outerColumn threshold =>
    have hthreshold := Json.proper_nat (h.word_lt threshold List.mem_cons_self)
    simp [fields, Json.Proper.string, hthreshold]
  | wordCloud limit =>
    have hlimit := Json.proper_nat (h.word_lt limit List.mem_cons_self)
    simp [fields, hlimit]
  | scanSource | keywordSource | keywordMatcher | patternMatcher | entityMatcher | projection
  | typeCasting | wordCountPartial | tupleSink =>
    simp [fields, Json.Proper.string, proper_texts, AttributeType.toJson]

lemma depth_texts_le (texts : List String) : (textsToJson texts).depth ≤ 2 :=
  Json.depth_array_map_le fun _ _ => Nat.zero_le 1

lemma depth_attributes_le (attributes : List Attribute) :
    (Json.array (attributes.map Attribute.toJson)).depth ≤ 2 :=
  Json.depth_array_map_le fun a _ => a.depth_toJson.le

/-- No field of a kind nests deeper than a list of attributes. -/
lemma membersDepth_fields_le (kind : OperatorKind) : Json.membersDepth kind.fields ≤ 2 := by
  cases kind with
  | userFunction f =>
    have hscript : (Json.optional .string f.script).depth = 0 := by cases f.script <;> rfl
    have hworkers : (Json.optional .nat f.workers).depth = 0 := by cases f.workers <;> rfl
    have houtputs := depth_attributes_le f.outputs
    simpa [fields, Json.membersDepth, Json.depth, Json.nat, depth_texts_le, hscript, hworkers]
      using houtputs
  | fuzzyMatcher query columns threshold result =>
    have hthreshold : (Json.binary64 threshold).depth = 0 := by
      unfold Json.binary64
      split <;> rfl
    simp [fields, Json.membersDepth, Json.depth, depth_texts_le, hthreshold]
  | scanSource | keywordSource | keywordMatcher | patternMatcher | entityMatcher | projection
  | typeCasting | wordCountPartial | tupleSink | join | wordCloud =>
    simp [fields, Json.membersDepth, Json.depth, Json.nat, AttributeType.toJson, depth_texts_le]

lemma lt_of_functionOfMembers? {room : Nat} {members : List (String × Json)} {f : UserFunction}
    (h : functionOfMembers? room members = some f) :
    f.batchSize < 2 ^ 64 ∧ ∀ n ∈ f.workers, n < 2 ^ 64 := by
  simp only [functionOfMembers?, Option.bind_eq_bind, Option.pure_def, Option.bind_eq_some_iff,
    Option.some.injEq] at h
  obtain ⟨_, -, role, -, _, -, script, -, _, -, inputs, -, _, -, outputs, -, _, -, batch, hbatch,
    _, -, workers, hworkers, rfl⟩ := h
  exact ⟨Json.lt_of_default? (by norm_num [standardBatch]) hbatch,
    Json.forall_lt_of_default? hworkers⟩

/-- The numbers of a kind that was read are those of a machine word, and finite doubles. -/
lemma of_ofMembers? {room : Nat} {tag : String} {members : List (String × Json)}
    {kind : OperatorKind} (h : ofMembers? room tag members = some kind) :
    (∀ n ∈ kind.words, n < 2 ^ 64) ∧ ∀ x ∈ kind.doubles, x.isFinite := by
  unfold ofMembers? at h
  simp only at h
  split at h
  all_goals simp only [Option.bind_eq_bind, Option.pure_def, Option.bind_eq_some_iff,
    Option.some.injEq, reduceCtorEq] at h
  · obtain ⟨table, -, rfl⟩ := h
    simp [words, doubles]
  · obtain ⟨table, -, query, -, columns, -, matching, -, result, -, rfl⟩ := h
    simp [words, doubles]
  · obtain ⟨query, -, columns, -, matching, -, result, -, rfl⟩ := h
    simp [words, doubles]
  · obtain ⟨pattern, -, columns, -, result, -, rfl⟩ := h
    simp [words, doubles]
  · obtain ⟨_, -, threshold, hthreshold, query, -, columns, -, result, -, rfl⟩ := h
    simp [words, doubles, Json.isFinite_of_required? hthreshold]
  · obtain ⟨_, -, entity, -, columns, -, result, -, rfl⟩ := h
    simp [words, doubles]
  · obtain ⟨columns, -, rfl⟩ := h
    simp [words, doubles]
  · obtain ⟨_, -, target, -, column, -, rfl⟩ := h
    simp [words, doubles]
  · obtain ⟨f, hfunction, rfl⟩ := h
    simpa [words, doubles] using lt_of_functionOfMembers? hfunction
  · obtain ⟨innerColumn, -, outerColumn, -, threshold, ⟨_, -, hthreshold⟩, rfl⟩ := h
    simpa [words, doubles] using Json.lt_of_required? hthreshold
  · obtain ⟨column, -, rfl⟩ := h
    simp [words, doubles]
  · obtain ⟨limit, ⟨_, -, hlimit⟩, rfl⟩ := h
    simpa [words, doubles] using Json.lt_of_required? hlimit
  · obtain rfl := h
    simp [words, doubles]

end OperatorKind

namespace Operator

variable {operator : Operator}

lemma proper_toJson (h : operator.kind.Portable) : operator.toJson.Proper := by
  apply Json.Proper.object
  simp only [List.forall_mem_cons]
  exact ⟨.string _, .string _, h.proper_fields⟩

lemma depth_toJson_le (operator : Operator) : operator.toJson.depth ≤ 3 := by
  have hfields := operator.kind.membersDepth_fields_le
  simp only [toJson, Json.depth, Json.membersDepth]
  omega

/-- An operator is read back, wherever as many levels are left as it has. -/
lemma reads (h : operator.kind.Portable) : Decoder.Reads ofJson? operator.toJson operator := by
  intro room
  have hproper := proper_toJson h
  rw [toJson] at hproper ⊢
  cases hproper with
  | object hmembers =>
    cases room with
    | zero => simp [ofJson?, Json.depth]
    | succ room =>
      rw [ofJson?, Json.membersAreSound_eq hmembers, Json.depth]
      simp only [Nat.add_le_add_iff_right, decide_eq_true_eq]
      split_ifs with hroom
      · have hfields : Json.membersDepth operator.kind.fields ≤ room := by
          simp only [Json.membersDepth] at hroom
          omega
        have hkeys := operator.kind.nodup_fields operator.id
        rw [Json.member?_of_mem hkeys List.mem_cons_self,
          Json.member?_of_mem hkeys (List.mem_cons_of_mem _ List.mem_cons_self)]
        simp [Json.required?, Json.string?, operatorTag?, h.ofMembers?_fields operator.id hfields]
      · rfl

/-- The numbers of an operator that was read are those of a machine word, and finite doubles. -/
lemma of_ofJson? {room : Nat} {j : Json} (h : ofJson? room j = some operator) :
    (∀ n ∈ operator.kind.words, n < 2 ^ 64) ∧ ∀ x ∈ operator.kind.doubles, x.isFinite := by
  match room, j with
  | room + 1, .object members =>
    rw [ofJson?] at h
    split_ifs at h
    simp only [Option.bind_eq_bind, Option.pure_def, Option.bind_eq_some_iff,
      Option.some.injEq] at h
    obtain ⟨_, -, id, -, _, -, tag, -, kind, hkind, rfl⟩ := h
    exact OperatorKind.of_ofMembers? hkind

end Operator

end Dataflow
