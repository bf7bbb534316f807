import StudioQuote.Http.Exchange
import StudioQuote.Proofs.Json.Plain

/-!
# Bodies that were written

The text of an object begins with a brace and a quotation mark or another brace, so its bytes
are taken as UTF-8, and what is read from the body is the text again. An object that is read
back as it is therefore reaches its endpoint as it is, and an answer that can be sent is
the content of the response.
-/

namespace StudioQuote

/-! ## Bytes -/

theorem toList_loop (bytes : ByteArray) (i : Nat) (before : List UInt8) :
    ByteArray.toList.loop bytes i before = before.reverse ++ bytes.data.toList.drop i := by
  fun_induction ByteArray.toList.loop bytes i before with
  | case1 i before hlt ih =>
    have hlength : i < bytes.data.toList.length := hlt
    have hget : bytes.get! i = bytes.data.toList[i] := getElem!_pos bytes.data i hlt
    rw [ih, List.drop_eq_getElem_cons hlength, hget, List.reverse_cons, List.append_assoc,
      List.singleton_append]
  | case2 i before hge =>
    rw [List.drop_eq_nil_of_le (Nat.le_of_not_lt hge), List.append_nil]

theorem toList_toUTF8 (cs : List Char) :
    (String.ofList cs).toUTF8.toList = cs.flatMap String.utf8EncodeChar := by
  rw [String.toUTF8, String.toByteArray_ofList, List.utf8Encode, ByteArray.toList,
    toList_loop, List.reverse_nil, List.nil_append, List.drop_zero,
    List.toList_data_toByteArray]

namespace Text

theorem ofPlainChars_eq_cons {c : Char} (hc : c ≠ halfMark) {t cs : List Char}
    (h : ofPlainChars t = c :: cs) : ∃ u, t = c :: u ∧ ofPlainChars u = cs := by
  cases t with
  | nil => cases h
  | cons d u =>
    rw [ofPlainChars, List.flatMap_cons] at h
    by_cases hd : d = halfMark
    · rw [Code.marked, if_pos hd] at h
      exact absurd (List.cons.inj h).1.symm hc
    · rw [marked_of_ne hd, List.singleton_append] at h
      obtain ⟨rfl, hrest⟩ := List.cons.inj h
      exact ⟨u, rfl, hrest⟩

end Text

theorem Json.exists_writeChars_obj (l : Layout) (ms : Members) :
    ∃ d rest, (d = '"' ∨ d = '}') ∧ writeChars l (.obj ms) = '{' :: d :: rest := by
  cases ms with
  | nil => exact ⟨'}', [], .inr rfl, rfl⟩
  | cons m ms => exact ⟨'"', _, .inl rfl, rfl⟩

namespace Http

/-- Bytes of which the first two are not zero. -/
theorem Encoding.ofBytes_of_ne {a b : UInt8} (ha : a ≠ 0) (hb : b ≠ 0) (rest : List UInt8) :
    Encoding.ofBytes (a :: b :: rest) = .utf8 := by
  rcases rest with _ | ⟨c, _ | ⟨d, rest⟩⟩
  · rw [ofBytes, if_neg ha, if_neg hb]
  · rfl
  · rw [ofBytes, if_neg ha, if_neg hb]

theorem bodyCodes?_of_brace {d : Char} (hd : d = '"' ∨ d = '}') (rest : List Char) :
    bodyCodes? (String.ofList ('{' :: d :: rest)) = some (('{' :: d :: rest).map .char) := by
  have hbytes : Encoding.ofBytes (String.ofList ('{' :: d :: rest)).toUTF8.toList = .utf8 := by
    rw [toList_toUTF8, List.flatMap_cons, List.flatMap_cons]
    rcases hd with rfl | rfl
    · exact Encoding.ofBytes_of_ne (by decide) (by decide) _
    · exact Encoding.ofBytes_of_ne (by decide) (by decide) _
  rw [bodyCodes?, hbytes, String.toList_ofList]
  rfl

theorem bodyChars?_write {l : Json.Layout} (hl : l.Readable) (ms : Json.Members) :
    bodyChars? ((Json.obj ms).write l) = some ((Json.obj ms).writeChars l) := by
  obtain ⟨t, ht⟩ := hl.arePlain_writeChars (.obj ms)
  obtain ⟨d, rest, hd, hchars⟩ := Json.exists_writeChars_obj l ms
  have hmark : d ≠ Text.halfMark := by rcases hd with rfl | rfl <;> decide
  obtain ⟨u, rfl, hu⟩ := Text.ofPlainChars_eq_cons (by decide) (ht.symm.trans hchars)
  obtain ⟨u, rfl, -⟩ := Text.ofPlainChars_eq_cons hmark hu
  have htext : (Json.obj ms).write l = Text.ofPlain (String.ofList ('{' :: d :: u)) := by
    rw [Json.write, ht, Text.ofPlain, String.toList_ofList]
  rw [bodyChars?, htext, Text.toPlain?_ofPlain, Option.bind_some, bodyCodes?_of_brace hd,
    Option.map_some, List.flatMap_map, ht]
  rfl

namespace Request

/-- A request that posts the text of a value. -/
def post (target : String) (l : Json.Layout) (v : Json) (requestId : Option String) : Request :=
  ⟨"POST", target, some (v.write l), requestId⟩

theorem json_post {n : Json.Nesting} {target : String} {l : Json.Layout} (hl : l.Readable)
    {ms : Json.Members} (h : (Json.obj ms).IsReadBack (.loose n)) (requestId : Option String) :
    (post target l (.obj ms) requestId).json n = .ok (some (.obj ms)) := by
  have hread : Json.readChars (.loose n) ((Json.obj ms).writeChars l) = .ok (.obj ms) := by
    have htext := h l hl
    rw [Json.read, Json.write, String.toList_ofList] at htext
    exact htext
  have hne : (Json.obj ms).write l ≠ "" := by
    obtain ⟨d, rest, -, hchars⟩ := Json.exists_writeChars_obj l ms
    intro hempty
    have hnil := congrArg String.toList hempty
    rw [Json.write, String.toList_ofList, hchars] at hnil
    cases hnil
  have hbody : (some ((Json.obj ms).write l)).filter (· ≠ "") = some ((Json.obj ms).write l) := by
    rw [Option.filter_some, if_pos (decide_eq_true hne)]
  rw [json, post, hbody]
  simp only [bodyChars?_write hl, hread]

end Request

theorem execute_reply {v : Json} (h : v.IsSendable) (id : String) (db : Database) :
    execute id (.reply v) db = (⟨200, some id, .json v⟩, db) := by
  rw [execute, Response.reply?, h.finitePart, if_pos h.isShowable]
  rfl

theorem serveFully_of_onPath {c : Conditions} {r : Request} {e : Endpoint}
    {parameters : Json.Members} (hpath : Endpoint.onPath (segments r.target) = [(e, parameters)])
    (hmethod : Method.ofName? r.method = some e.method) (db : Database) :
    serveFully c r db = serveAt c r e parameters db := by
  have hfind : [(e, parameters)].find? (fun e => Method.ofName? r.method = some e.1.method) =
      some (e, parameters) := List.find?_cons_of_pos (decide_eq_true hmethod)
  rw [serveFully]
  simp only [hpath, hfind]

theorem serve_of_ne_head {c : Conditions} {r : Request} (h : Text.upper r.method ≠ "HEAD")
    (db : Database) : serve c r db = serveFully c r db := by
  rw [serve]
  simp only [if_neg h]

section Reply

variable {c : Conditions} {target : String} {e : Endpoint}
  (hpath : Endpoint.onPath (segments target) = [(e, [])]) (hpost : e.method = .post)
  (hbody : e.takesBody = true) {v : Json} (hv : v.IsSendable)

include hpath hpost hbody hv

/-- An endpoint that needs no store answers at once. -/
theorem serve_of_reply {r : Request} (htarget : r.target = target) (hmethod : r.method = "POST")
    {body : Json} (hjson : r.json c.bodyNesting = .ok (some body))
    (hcommand : e.command c [] (some body) = .ok (.reply v)) (db : Database) :
    serve c r db = (⟨200, some (r.id c), .json v⟩, db) := by
  subst htarget
  have hname : Method.ofName? r.method = some e.method := by
    rw [hmethod, hpost]
    decide +kernel
  have hhead : Text.upper r.method ≠ "HEAD" := by
    rw [hmethod]
    decide +kernel
  rw [serve_of_ne_head hhead, serveFully_of_onPath hpath hname, serveAt, Request.bodyFor, hbody,
    if_pos rfl, hjson]
  simp only [hcommand]
  exact execute_reply hv _ db

theorem serve_post {ms : Json.Members} (hms : (Json.obj ms).IsReadBack (.loose c.bodyNesting))
    (hcommand : e.command c [] (some (.obj ms)) = .ok (.reply v)) {l : Json.Layout}
    (hl : l.Readable) (requestId : Option String) (db : Database) :
    serve c (.post target l (.obj ms) requestId) db =
      (⟨200, some (RequestId.choose c.freshId requestId), .json v⟩, db) :=
  serve_of_reply hpath hpost hbody hv rfl rfl (Request.json_post hl hms requestId) hcommand db

end Reply

end Http

end StudioQuote
