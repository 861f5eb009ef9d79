import AiGateway.Cache.VectorStore
import AiGateway.Lib.JsMap
import AiGateway.Lib.JsNumber
import AiGateway.Lib.Utf8

/- The reply of `FT.SEARCH` as it comes off the wire, and `parseKnnHits` on it: an untyped array
   of a count and then, in turn, a key and the array of its fields.

   `parseKnnHits_exact`: the parser ends on every value, and on a reply of the expected form it
   keeps the entries with a reply that can be served and a distance, and reports the keys of the
   entries without such a reply. `parseKnnHits_refines` says that this is what the search of the
   vector store (`AiGateway.parseKnnHits`) takes from its documents. -/
namespace AiGateway.SearchReply

/-! ## RESP values -/

/-- A value of RESP2, as the client hands it on. A number is its text. -/
inductive RespValue where
  | null
  | number (n : Json.Number)
  | text (s : String)
  | buffer (bytes : List UInt8)
  | array (items : List RespValue)
  | error (message : String)

def asString : RespValue → String
  | .text s => s
  | .buffer bytes => Utf8.decode bytes
  | .number n => String.ofList n.text
  | _ => ""

mutual

/-- `String(value)` of an item of an array. -/
def itemText : RespValue → List Char
  | .null => []
  | .number n => n.text
  | .text s => s.toList
  | .buffer bytes => (Utf8.decode bytes).toList
  | .array items => joinText items
  | .error message => "ReplyError: ".toList ++ message.toList

/-- `items.join(',')`. -/
def joinText : List RespValue → List Char
  | [] => []
  | [item] => itemText item
  | item :: next :: items => itemText item ++ ',' :: joinText (next :: items)

end

/-- `Number(value)` where that is finite. -/
def toFiniteNumber : RespValue → Option ℚ
  | .null => some 0
  | .number n => some n.value
  | value => JsNumber.ofText (String.ofList (itemText value))

/-! ## `parseKnnHits` -/

/-- What `JSON.parse` throws. -/
inductive Thrown where
  | syntaxError
  deriving DecidableEq, Repr

def jsonParse (text : String) : Except Thrown Json.Value :=
  match Json.parse text with
  | some value => .ok value
  | none => .error .syntaxError

structure ParsedKnnHits where
  hits : List VectorSearchHit := []
  corruptKeys : List String := []

/-- The inner loop: `map.set(asString(fields[j]), asString(fields[j + 1]))`. -/
def setFields : List RespValue → JsMap String String → JsMap String String
  | name :: value :: fields, map => setFields fields (map.set (asString name) (asString value))
  | _, map => map

/-- `if (key) corruptKeys.push(key)`. -/
def pushCorrupt (out : ParsedKnnHits) (key : String) : ParsedKnnHits :=
  if key = "" then out else { out with corruptKeys := out.corruptKeys ++ [key] }

/-- One round of the loop over the items. -/
def readEntry (item fields : RespValue) (out : ParsedKnnHits) : Except Thrown ParsedKnnHits :=
  let key := asString item
  match fields with
  | .array fields =>
    let map := setFields fields .empty
    match JsString.truthy (map.get? "reply") with
    | none => .ok (pushCorrupt out key)
    | some replyRaw =>
      match jsonParse replyRaw with
      | .error _ => .ok (pushCorrupt out key)       -- `catch`
      | .ok parsedJson =>
        match parseCachedChatResponse parsedJson with
        | none => .ok (pushCorrupt out key)
        | some reply =>
          if isUnservableCachedReply reply then .ok (pushCorrupt out key)
          else match JsNumber.parseFloat ((map.get? "dist").getD "") with
            | none => .ok out
            | some dist => .ok { out with hits := out.hits ++ [⟨Double.nearest (1 - dist), reply⟩] }
  | _ => .ok out

/-- The loop over the items after the count, two at a time. -/
def readEntries : List RespValue → ParsedKnnHits → Except Thrown ParsedKnnHits
  | item :: fields :: items, out => do
    let out ← readEntry item fields out
    readEntries items out
  | _, out => .ok out

def parseKnnHits (raw : RespValue) : Except Thrown ParsedKnnHits :=
  match raw with
  | .array items =>
    if items.length < 3 then .ok {}
    else match toFiniteNumber (items.headD .null) with
      | none => .ok {}
      | some count => if count < 1 then .ok {} else readEntries items.tail {}
  | _ => .ok {}

/-! ## What an entry is -/

/-- A list taken two at a time; an odd last item is left out. -/
def pairs : List RespValue → List (RespValue × RespValue)
  | first :: second :: rest => (first, second) :: pairs rest
  | _ => []

/-- One entry of a search reply: the key of a document and its fields, name and value. -/
structure SearchEntry where
  key : RespValue
  fields : List (RespValue × RespValue)

namespace SearchEntry

/-- The text of a field; of a repeated one the last. -/
def field? (e : SearchEntry) (name : String) : Option String :=
  (e.fields.reverse.find? fun f => asString f.1 = name).map fun f => asString f.2

/-- The reply of the entry, if it is there, parses, has the shape of one and can be served. -/
def reply? (e : SearchEntry) : Option CachedChatResponse := (e.field? "reply").bind readCachedReply

/-- The distance of the entry, if it is a finite number. -/
def dist? (e : SearchEntry) : Option ℚ := (e.field? "dist").bind JsNumber.parseFloat

def hit? (e : SearchEntry) : Option VectorSearchHit :=
  e.reply?.bind fun reply => e.dist?.map fun dist => ⟨Double.nearest (1 - dist), reply⟩

/-- The key of an entry without such a reply, unless it is empty. -/
def corruptKey? (e : SearchEntry) : Option String :=
  if e.reply? = none then JsString.truthy (some (asString e.key)) else none

/-- The entry as it is sent. -/
def items (e : SearchEntry) : List RespValue := [e.key, .array (e.fields.flatMap fun f => [f.1, f.2])]

end SearchEntry

/-- A reply of the expected form. -/
def searchReply (count : RespValue) (entries : List SearchEntry) : RespValue :=
  .array (count :: entries.flatMap SearchEntry.items)

/-- The entry at one place of the loop; what has no array of fields is none. -/
def asEntry : RespValue × RespValue → Option SearchEntry
  | (key, .array fields) => some ⟨key, pairs fields⟩
  | _ => none

/-- The entries of any array of items. -/
def entriesOf (items : List RespValue) : List SearchEntry := (pairs items).filterMap asEntry

/-- What the entries come to. -/
def contents (entries : List SearchEntry) : ParsedKnnHits :=
  ⟨entries.filterMap SearchEntry.hit?, entries.filterMap SearchEntry.corruptKey?⟩

/-! ## The loops -/

section Loops

theorem setFields_eq (fields : List RespValue) (map : JsMap String String) :
    setFields fields map = (pairs fields).foldl (fun map f => map.set (asString f.1) (asString f.2)) map := by
  fun_induction pairs fields generalizing map with
  | case1 name value fields ih => exact ih _
  | case2 fields hshort =>
    unfold setFields
    split
    · next name value rest => exact absurd rfl (hshort name value rest)
    · rfl

/-- The map of the fields has the last field of each name. -/
theorem get?_setFields (fields : List RespValue) (name : String) :
    (setFields fields .empty).get? name =
      ((pairs fields).reverse.find? fun f => asString f.1 = name).map fun f => asString f.2 := by
  rw [setFields_eq, ← List.reverse_reverse (pairs fields), List.foldl_reverse, List.reverse_reverse]
  induction (pairs fields).reverse with
  | nil => rfl
  | cons f fs ih =>
    rw [List.foldr_cons]
    by_cases hname : asString f.1 = name
    · subst hname
      simp
    · rw [JsMap.get?_set_ne _ _ (Ne.symm hname), ih]
      simp [hname]

/-- `parseFloat(map.get('dist') ?? '')`: a missing distance is no number. -/
theorem parseFloat_dist (e : SearchEntry) : JsNumber.parseFloat ((e.field? "dist").getD "") = e.dist? := by
  have hempty : JsNumber.parseFloat "" = none := by decide
  unfold SearchEntry.dist?
  cases e.field? "dist" with
  | none => exact hempty
  | some text => rfl

/-- A text without a value is no reply. -/
theorem readCachedReply_of_parse {text : String} (h : (Json.parse text).bind parseCachedChatResponse = none) :
    readCachedReply text = none := by
  unfold readCachedReply
  rw [h, Option.filter_none]

theorem readCachedReply_empty : readCachedReply "" = none :=
  readCachedReply_of_parse (by decide)

/-- An entry without a reply that can be served is its key, if that is not empty. -/
theorem pushCorrupt_eq {e : SearchEntry} (h : e.reply? = none) (out : ParsedKnnHits) :
    pushCorrupt out (asString e.key) = ⟨out.hits ++ e.hit?.toList, out.corruptKeys ++ e.corruptKey?.toList⟩ := by
  have hhit : e.hit? = none := by rw [SearchEntry.hit?, h, Option.bind_none]
  rw [hhit, SearchEntry.corruptKey?, if_pos h, JsString.truthy_some, pushCorrupt]
  by_cases hkey : asString e.key = ""
  · simp [hkey]
  · simp [hkey]

/-- An entry is a hit, a corrupt key or neither. -/
theorem readEntry_array (item : RespValue) (fields : List RespValue) (out : ParsedKnnHits) :
    readEntry item (.array fields) out =
      .ok ⟨out.hits ++ (SearchEntry.hit? ⟨item, pairs fields⟩).toList,
        out.corruptKeys ++ (SearchEntry.corruptKey? ⟨item, pairs fields⟩).toList⟩ := by
  obtain ⟨e, he⟩ : ∃ e : SearchEntry, e = ⟨item, pairs fields⟩ := ⟨_, rfl⟩
  have hget : ∀ name, (setFields fields .empty).get? name = e.field? name := by
    intro name
    rw [get?_setFields, he]
    rfl
  have hkey : asString item = asString e.key := by rw [he]
  have hreply : e.reply? = (e.field? "reply").bind readCachedReply := rfl
  rw [← he]
  unfold readEntry
  dsimp only
  rw [hget, hget, hkey]
  cases hfield : e.field? "reply" with
  | none =>
    rw [hfield, Option.bind_none] at hreply
    exact congrArg Except.ok (pushCorrupt_eq hreply out)
  | some text =>
    rw [hfield, Option.bind_some] at hreply
    rw [JsString.truthy_some]
    -- the ways in which the text is no reply to serve, in the order of the source
    by_cases hempty : text = ""
    · rw [if_pos hempty]
      rw [hempty, readCachedReply_empty] at hreply
      exact congrArg Except.ok (pushCorrupt_eq hreply out)
    · rw [if_neg hempty]
      dsimp only
      unfold jsonParse
      cases hparse : Json.parse text with
      | none =>
        rw [readCachedReply_of_parse (by rw [hparse, Option.bind_none])] at hreply
        exact congrArg Except.ok (pushCorrupt_eq hreply out)
      | some value =>
        cases hshape : parseCachedChatResponse value with
        | none =>
          rw [readCachedReply_of_parse (by rw [hparse, Option.bind_some, hshape])] at hreply
          dsimp only
          rw [hshape]
          exact congrArg Except.ok (pushCorrupt_eq hreply out)
        | some reply =>
          rw [readCachedReply, hparse, Option.bind_some, hshape] at hreply
          dsimp only
          rw [hshape]
          dsimp only
          by_cases hserve : isUnservableCachedReply reply = true
          · rw [if_pos hserve]
            rw [Option.filter_some, hserve] at hreply
            exact congrArg Except.ok (pushCorrupt_eq hreply out)
          · rw [if_neg hserve]
            have hserved : e.reply? = some reply := by rw [hreply, Option.filter_some]; simp [hserve]
            have hkept : e.corruptKey? = none := by simp [SearchEntry.corruptKey?, hserved]
            rw [parseFloat_dist, hkept, SearchEntry.hit?, hserved, Option.bind_some]
            cases e.dist? with
            | none => simp
            | some dist => simp

theorem filterMap_cons_toList {α β : Type} (f : α → Option β) (a : α) (as : List α) :
    (a :: as).filterMap f = (f a).toList ++ as.filterMap f := by
  cases h : f a with
  | none => simp [h]
  | some b => simp [h]

/-- The loop adds what the entries come to. -/
theorem readEntries_eq (items : List RespValue) (out : ParsedKnnHits) :
    readEntries items out = .ok ⟨out.hits ++ (contents (entriesOf items)).hits,
      out.corruptKeys ++ (contents (entriesOf items)).corruptKeys⟩ := by
  unfold entriesOf
  fun_induction pairs items generalizing out with
  | case1 item fields items ih =>
    -- An entry only adds to what was read before it.
    have hskip : ∀ out', readEntry item fields out = .ok out' →
        readEntries (item :: fields :: items) out = readEntries items out' := by
      intro out' h
      rw [readEntries, h]
      rfl
    cases fields with
    | array fields =>
      rw [hskip _ (readEntry_array item fields out), ih,
        List.filterMap_cons_some (rfl : asEntry (item, .array fields) = some ⟨item, pairs fields⟩)]
      simp only [contents, filterMap_cons_toList _ (SearchEntry.mk _ _), List.append_assoc]
    | null => rw [hskip out rfl, ih, List.filterMap_cons_none rfl]
    | number n => rw [hskip out rfl, ih, List.filterMap_cons_none rfl]
    | text s => rw [hskip out rfl, ih, List.filterMap_cons_none rfl]
    | buffer bytes => rw [hskip out rfl, ih, List.filterMap_cons_none rfl]
    | error message => rw [hskip out rfl, ih, List.filterMap_cons_none rfl]
  | case2 items hshort =>
    unfold readEntries
    split
    · next item fields rest => exact absurd rfl (hshort item fields rest)
    · simp [contents]

theorem pairs_fields (fields : List (RespValue × RespValue)) : pairs (fields.flatMap fun f => [f.1, f.2]) = fields := by
  induction fields with
  | nil => rfl
  | cons f fields ih => exact congrArg (f :: ·) ih

/-- The entries of a reply of the expected form are read back. -/
theorem entriesOf_items (entries : List SearchEntry) : entriesOf (entries.flatMap SearchEntry.items) = entries := by
  unfold entriesOf
  induction entries with
  | nil => rfl
  | cons e entries ih =>
    have hentry : asEntry (e.key, .array (e.fields.flatMap fun f => [f.1, f.2])) = some e := by
      rw [asEntry, pairs_fields]
    show ((e.key, _) :: pairs (entries.flatMap SearchEntry.items)).filterMap asEntry = _
    rw [List.filterMap_cons_some hentry, ih]

/-- A distance that is the text of a number is that number, as a double. -/
theorem dist?_number {e : SearchEntry} {n : Json.Number} (h : e.field? "dist" = some (String.ofList n.text)) :
    e.dist? = Double.finite? n.value := by
  rw [SearchEntry.dist?, h]
  exact JsNumber.parseFloat_number n

/-- No entry is a hit and a corrupt key. -/
theorem hit_or_corrupt (e : SearchEntry) : e.hit? = none ∨ e.corruptKey? = none := by
  unfold SearchEntry.hit? SearchEntry.corruptKey?
  cases e.reply? with
  | none => exact .inl rfl
  | some reply => exact .inr (if_neg (Option.some_ne_none reply))

/-- The parser ends on every value, with the contents of its entries or with nothing. -/
theorem parseKnnHits_eq (raw : RespValue) : ∃ items,
    parseKnnHits raw = .ok (contents (entriesOf items)) ∧ (items = [] ∨ ∃ count, raw = .array (count :: items)) := by
  have hnone : ∃ items, (.ok {} : Except Thrown ParsedKnnHits) = .ok (contents (entriesOf items)) ∧
      (items = [] ∨ ∃ count, raw = .array (count :: items)) := ⟨[], rfl, .inl rfl⟩
  unfold parseKnnHits
  cases raw with
  | array items =>
    dsimp only
    split
    · exact hnone
    · next hlength =>
      cases toFiniteNumber (items.headD .null) with
      | none => exact hnone
      | some count =>
        dsimp only
        split
        · exact hnone
        · cases items with
          | nil => simp at hlength
          | cons count items =>
            refine ⟨items, ?_, .inr ⟨count, rfl⟩⟩
            rw [List.tail_cons, readEntries_eq]
            rfl
  | _ => exact hnone

end Loops

/-! ## Exactness -/

/-- Every value is parsed without a throw. A reply of the expected form gives, in order, the hits
of the entries with a reply that can be served and a distance, and the keys of the entries
without such a reply; no entry gives both. -/
theorem parseKnnHits_exact :
    (∀ raw, ∃ out, parseKnnHits raw = .ok out) ∧
    ∀ (count : RespValue) (total : ℚ) (entries : List SearchEntry), toFiniteNumber count = some total →
      (entries.length : ℚ) ≤ total →
      ∃ out, parseKnnHits (searchReply count entries) = .ok out ∧
        out.hits = entries.filterMap SearchEntry.hit? ∧
        out.corruptKeys = entries.filterMap SearchEntry.corruptKey? ∧
        ∀ e ∈ entries, e.hit? = none ∨ e.corruptKey? = none := by
  refine ⟨fun raw => ?_, fun count total entries hcount htotal => ?_⟩
  · obtain ⟨items, hparse, _⟩ := parseKnnHits_eq raw
    exact ⟨_, hparse⟩
  · refine ⟨contents entries, ?_, rfl, rfl, fun e _ => hit_or_corrupt e⟩
    cases entries with
    | nil => rfl
    | cons e entries =>
      have hlength : ¬ (count :: (e :: entries).flatMap SearchEntry.items).length < 3 := by
        simp [SearchEntry.items]
      -- The guards of the parser take a reply with an entry for one.
      have hone : ¬ total < 1 := by
        rw [not_lt]
        refine le_trans ?_ htotal
        simp
      unfold parseKnnHits searchReply
      dsimp only
      rw [if_neg hlength, List.headD_cons, hcount]
      dsimp only
      rw [if_neg hone, List.tail_cons, readEntries_eq, entriesOf_items]
      rfl

/-- A reply that does not parse, one that was cut off, and one that is served. -/
def threeEntries : List SearchEntry :=
  let replyText (finishReason : String) := "\x7b\"id\":\"r\",\"provider\":\"p\",\"model\":\"m\",\"output\":\x7b\"type\":\"text\"," ++
    "\"text\":\"hi\"\x7d,\"cached\":true,\"cachedAt\":\"t\",\"finishReason\":\"" ++ finishReason ++ "\"\x7d"
  [⟨.text "bad-json", [(.text "reply", .text "\x7bnot-json"), (.text "dist", .text "0.05")]⟩,
    ⟨.text "too-long", [(.text "reply", .text (replyText "length")), (.text "dist", .text "0.05")]⟩,
    ⟨.text "ok", [(.text "reply", .text (replyText "stop")), (.text "dist", .text "0.25")]⟩]

/-- An entry with a reply and a distance. -/
theorem twoFields (key reply dist : String) :
    let e : SearchEntry := ⟨.text key, [(.text "reply", .text reply), (.text "dist", .text dist)]⟩
    e.reply? = readCachedReply reply ∧ e.dist? = JsNumber.parseFloat dist := by
  simp [SearchEntry.reply?, SearchEntry.dist?, SearchEntry.field?, asString]

theorem threeEntries_eq :
    ∃ bad long ok : SearchEntry, threeEntries = [bad, long, ok] ∧
      (bad.key = .text "bad-json" ∧ bad.reply? = none) ∧ (long.key = .text "too-long" ∧ long.reply? = none) ∧
        ok.dist? = some (1 / 4) ∧ ∃ reply, ok.reply? = some reply := by
  -- The texts are parsed as the characters they are written with.
  have hbad : readCachedReply "\x7bnot-json" = none := by
    rw [readCachedReply, Json.parse, String.toList_ofList]
    decide +kernel
  have hlong : readCachedReply ("\x7b\"id\":\"r\",\"provider\":\"p\",\"model\":\"m\",\"output\":\x7b\"type\":\"text\"," ++
      "\"text\":\"hi\"\x7d,\"cached\":true,\"cachedAt\":\"t\",\"finishReason\":\"" ++ "length" ++ "\"\x7d") = none := by
    rw [readCachedReply, Json.parse, String.toList_append, String.toList_append, String.toList_append,
      String.toList_ofList, String.toList_ofList, String.toList_ofList, String.toList_ofList]
    decide +kernel
  have hok : readCachedReply ("\x7b\"id\":\"r\",\"provider\":\"p\",\"model\":\"m\",\"output\":\x7b\"type\":\"text\"," ++
      "\"text\":\"hi\"\x7d,\"cached\":true,\"cachedAt\":\"t\",\"finishReason\":\"" ++ "stop" ++ "\"\x7d") =
        some ⟨"r", "p", "m", "hi", .stop, none, none, none, none, none, none, "t"⟩ := by
    rw [readCachedReply, Json.parse, String.toList_append, String.toList_append, String.toList_append,
      String.toList_ofList, String.toList_ofList, String.toList_ofList, String.toList_ofList]
    decide +kernel
  have hdist : JsNumber.parseFloat "0.25" = some (1 / 4) := by decide +kernel
  exact ⟨_, _, _, rfl, ⟨rfl, (twoFields _ _ _).1.trans hbad⟩, ⟨rfl, (twoFields _ _ _).1.trans hlong⟩,
    (twoFields _ _ _).2.trans hdist, _, (twoFields _ _ _).1.trans hok⟩

theorem parseKnnHits_threeEntries :
    ∃ out, parseKnnHits (searchReply (.number ⟨['3'], by decide⟩) threeEntries) = .ok out ∧
      out.hits.map VectorSearchHit.similarity = [3 / 4] ∧ out.corruptKeys = ["bad-json", "too-long"] := by
  obtain ⟨out, hparse, hhits, hkeys, _⟩ := parseKnnHits_exact.2 (.number ⟨['3'], by decide⟩) 3 threeEntries
    (by decide +kernel) (by rfl)
  obtain ⟨bad, long, ok, hentries, ⟨hbadKey, hbad⟩, ⟨hlongKey, hlong⟩, hdist, reply, hok⟩ := threeEntries_eq
  have hsimilarity : Double.nearest (1 - 1 / 4) = 3 / 4 := by decide +kernel
  refine ⟨out, hparse, ?_, ?_⟩
  · rw [hhits, hentries]
    simp only [List.filterMap, SearchEntry.hit?, hbad, hlong, hok, hdist, Option.bind_none, Option.bind_some,
      Option.map_some, List.map_cons, List.map_nil, hsimilarity]
  · rw [hkeys, hentries]
    simp [SearchEntry.corruptKey?, hbad, hlong, hok, hbadKey, hlongKey, asString, JsString.truthy_some]

/-! ## The search of the store -/

/-- The value is this text, as it is or in UTF-8. -/
def Carries (value : RespValue) (s : String) : Prop := value = .text s ∨ value = .buffer (Utf8.encode s)

theorem asString_of_carries {value : RespValue} {s : String} (h : Carries value s) : asString value = s := by
  obtain rfl | rfl := h
  · rfl
  · exact Utf8.decode_encode s

/-- The entry that is sent for a document of the store. -/
structure Sends (store : Store) (doc : SearchDoc) (e : SearchEntry) : Prop where
  key : Carries e.key doc.key
  reply : e.field? "reply" = (store doc.key).bind Entry.reply
  dist : e.dist? = doc.dist

/-- The parser takes from the entries what the search takes from the documents, the similarity
rounded. -/
theorem parseKnnHits_refines {store : Store} {docs : List SearchDoc} {entries : List SearchEntry}
    (h : List.Forall₂ (Sends store) docs entries) :
    contents entries =
      ⟨(AiGateway.parseKnnHits store docs).1.map fun hit => ⟨Double.nearest hit.similarity, hit.reply⟩,
        (AiGateway.parseKnnHits store docs).2⟩ := by
  induction h with
  | nil => rfl
  | @cons doc e docs entries hsends _ ih =>
    -- An empty text is falsy: it counts as no reply, and is no JSON either.
    have hreply : e.reply? = (((store doc.key).bind Entry.reply).filter (· ≠ "")).bind readCachedReply := by
      rw [SearchEntry.reply?, hsends.reply]
      cases (store doc.key).bind Entry.reply with
      | none => rfl
      | some text =>
        show readCachedReply text = (JsString.truthy (some text)).bind readCachedReply
        rw [JsString.truthy_some]
        by_cases hempty : text = ""
        · rw [hempty, readCachedReply_empty, if_pos rfl, Option.bind_none]
        · rw [if_neg hempty, Option.bind_some]
    have hkey := asString_of_carries hsends.key
    simp only [contents, ParsedKnnHits.mk.injEq] at ih ⊢
    rw [filterMap_cons_toList, filterMap_cons_toList, ih.1, ih.2, AiGateway.parseKnnHits, SearchEntry.hit?,
      SearchEntry.corruptKey?, hsends.dist, hkey, hreply]
    cases (((store doc.key).bind Entry.reply).filter (· ≠ "")).bind readCachedReply with
    | none =>
      rw [JsString.truthy_some]
      by_cases hempty : doc.key = ""
      · simp [hempty]
      · simp [hempty]
    | some reply =>
      cases doc.dist with
      | none => simp
      | some dist => simp

end AiGateway.SearchReply
