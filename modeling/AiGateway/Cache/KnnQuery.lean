import AiGateway.Cache.VectorStore
import AiGateway.Lib.JsonText
import AiGateway.Lib.TagQuery

/- The query of a semantic search: `escapeRedisSearchTag` and `buildKnnQuery`. The five values
   come from the client, its request and the configuration, and are put between braces.

   * `knn_query_reads_back`: the query is read as five conditions with these five values.
   * `knn_filter_iff`: so the documents it lets through are those with the values among their
     tags. -/
namespace AiGateway

/-- `REDIS_SEARCH_TAG_SPECIAL_CHARS`. -/
def redisSearchTagSpecialChars : List Char := ",.<>\x7b\x7d[]\"':;!@#$%^&*()-+=~|/\\ ".toList

def isTagSpecial (c : Char) : Bool := redisSearchTagSpecialChars.contains c

def escapeRedisSearchTag (value : String) : String :=
  String.ofList (TagQuery.escape isTagSpecial value.toList)

/-- The embedding model among the tags is the configured one. -/
def buildKnnQuery (input : KnnInput) : String :=
  let modelAlias := escapeRedisSearchTag input.tags.modelAlias
  let clientId := escapeRedisSearchTag input.tags.clientId
  let embeddingModel := escapeRedisSearchTag input.tags.embeddingModel
  let systemSig := escapeRedisSearchTag input.tags.systemSignature
  let callParams := escapeRedisSearchTag input.tags.callParams
  "(@modelAlias:\x7b" ++ modelAlias ++ "\x7d @clientId:\x7b" ++ clientId ++ "\x7d @embeddingModel:\x7b" ++
    embeddingModel ++ "\x7d @systemSignature:\x7b" ++ systemSig ++ "\x7d @callParams:\x7b" ++ callParams ++
    "\x7d)=>[KNN " ++ toString input.k ++ " @vector $blob AS dist]"

/-- The fields that a search is filtered by, as the index names them. -/
def SemanticTags.conditions (t : SemanticTags) : List (String × String) :=
  [("modelAlias", t.modelAlias), ("clientId", t.clientId), ("embeddingModel", t.embeddingModel),
    ("systemSignature", t.systemSignature), ("callParams", t.callParams)]

/-- What a hash holds under the name of a field. -/
def SemanticTags.tag (t : SemanticTags) (field : String) : String :=
  ((t.conditions.find? fun p => p.1 = field).map Prod.snd).getD ""

def knnClause (k : ℕ) : String := "KNN " ++ toString k ++ " @vector $blob AS dist"

theorem tag_syntax_special : TagQuery.SyntaxSpecial isTagSpecial := fun _ => List.all_eq_true.mp (by decide) _

theorem tag_fields_plain (t : SemanticTags) : ∀ p ∈ t.conditions, ∀ c ∈ p.1.toList, isTagSpecial c = false := by
  have hfields : (t.conditions.map Prod.fst).all (fun field => field.toList.all fun c => !isTagSpecial c) = true := by
    rw [SemanticTags.conditions]
    simp only [List.map_cons, List.map_nil, List.all_cons, List.all_nil]
    rw [String.toList_ofList, String.toList_ofList, String.toList_ofList, String.toList_ofList, String.toList_ofList]
    decide
  intro p hp c hc
  have hfield := List.all_eq_true.mp hfields p.1 (List.mem_map_of_mem hp)
  simpa using List.all_eq_true.mp hfield c hc

/-- The texts of the template between two values. -/
theorem knn_template :
    "(@modelAlias:\x7b".toList = '(' :: '@' :: ("modelAlias".toList ++ [':', '\x7b']) ∧
      "\x7d @clientId:\x7b".toList = '\x7d' :: ' ' :: '@' :: ("clientId".toList ++ [':', '\x7b']) ∧
      "\x7d @embeddingModel:\x7b".toList = '\x7d' :: ' ' :: '@' :: ("embeddingModel".toList ++ [':', '\x7b']) ∧
      "\x7d @systemSignature:\x7b".toList = '\x7d' :: ' ' :: '@' :: ("systemSignature".toList ++ [':', '\x7b']) ∧
      "\x7d @callParams:\x7b".toList = '\x7d' :: ' ' :: '@' :: ("callParams".toList ++ [':', '\x7b']) ∧
      "\x7d)=>[KNN ".toList = '\x7d' :: ')' :: '=' :: '>' :: '[' :: "KNN ".toList ∧
      " @vector $blob AS dist]".toList = " @vector $blob AS dist".toList ++ [']'] := by
  and_intros
  all_goals rw [String.toList_ofList, String.toList_ofList] <;> rfl

theorem buildKnnQuery_eq (input : KnnInput) :
    buildKnnQuery input = String.ofList
      (TagQuery.queryText isTagSpecial input.tags.conditions (knnClause input.k).toList) := by
  obtain ⟨h₁, h₂, h₃, h₄, h₅, h₆, h₇⟩ := knn_template
  apply String.toList_injective
  unfold buildKnnQuery
  simp only [escapeRedisSearchTag, knnClause, SemanticTags.conditions, TagQuery.queryText, TagQuery.conditionsText,
    TagQuery.conditionText, String.toList_append, String.toList_ofList, h₁, h₂, h₃, h₄, h₅, h₆, h₇,
    List.append_assoc, List.cons_append, List.nil_append]

theorem knnClause_plain (k : ℕ) {c : Char} (hc : c ∈ (knnClause k).toList) : c ≠ '\\' ∧ c ≠ ']' := by
  have hk : (toString k).toList = Nat.toDigits 10 k := by
    rw [Nat.toString_eq_ofList_toDigits, String.toList_ofList]
  have hword : "KNN ".toList.all (fun c => decide (c ≠ '\\' ∧ c ≠ ']')) = true := by decide
  have hrest : " @vector $blob AS dist".toList.all (fun c => decide (c ≠ '\\' ∧ c ≠ ']')) = true := by decide
  rw [knnClause, String.toList_append, String.toList_append, hk, List.mem_append, List.mem_append] at hc
  obtain (hc | hc) | hc := hc
  · exact of_decide_eq_true (List.all_eq_true.mp hword c hc)
  · have hdigit := Json.toDigits_isDigit k c hc
    constructor <;> rintro rfl <;> cases hdigit
  · exact of_decide_eq_true (List.all_eq_true.mp hrest c hc)

theorem knn_query_parsed (input : KnnInput) :
    TagQuery.parse isTagSpecial (buildKnnQuery input) =
      some ⟨[input.tags.conditions.map fun p => ⟨p.1, [p.2]⟩], knnClause input.k⟩ := by
  have hback : '\\' ∉ (knnClause input.k).toList := fun h => (knnClause_plain input.k h).1 rfl
  have hend : ']' ∉ (knnClause input.k).toList := fun h => (knnClause_plain input.k h).2 rfl
  have hne : input.tags.conditions ≠ [] := by simp [SemanticTags.conditions]
  rw [buildKnnQuery_eq, TagQuery.parse_query tag_syntax_special hne (tag_fields_plain _) hback hend,
    String.ofList_toList]

/-- **No value gets out of its braces.** -/
theorem knn_query_reads_back (input : KnnInput) :
    TagQuery.parse isTagSpecial (buildKnnQuery input) =
      some ⟨[[⟨"modelAlias", [input.tags.modelAlias]⟩, ⟨"clientId", [input.tags.clientId]⟩,
        ⟨"embeddingModel", [input.tags.embeddingModel]⟩, ⟨"systemSignature", [input.tags.systemSignature]⟩,
        ⟨"callParams", [input.tags.callParams]⟩]], "KNN " ++ toString input.k ++ " @vector $blob AS dist"⟩ := by
  rw [knn_query_parsed]
  rfl

/-- The filter of a search lets through the documents that it is said to find. -/
theorem knn_filter_iff (cfg : StoreConfig) (input : KnnInput) (t : SemanticTags) :
    (∃ q, TagQuery.parse isTagSpecial (buildKnnQuery input) = some q ∧ q.matches fun field => cfg.tagValues (t.tag field)) ↔
      t.foundBy cfg input.tags = true := by
  simp only [knn_query_parsed, Option.some.injEq, exists_eq_left', TagQuery.matches_single]
  simp [SemanticTags.conditions, SemanticTags.tag, SemanticTags.foundBy, and_assoc]

-- what an unescaped `|` would say
example : TagQuery.parse isTagSpecial "(@a:\x7bx|y\x7d)=>[K]" = some ⟨[[⟨"a", ["x", "y"]⟩]], "K"⟩ := by decide

end AiGateway
