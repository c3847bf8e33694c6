import Mathlib.Data.List.TakeWhile
import PromptTrainer.Generation.Chat
import PromptTrainer.Proofs.Normalization
/-!
# Reading a model's structured output

A model's reply text is read by taking its outermost `{...}` span, from the first `{` to the
last `}`, parsing that span as JSON and checking it against the output schema
(`structuredOutput`).  The span is found without looking inside it.  So when a printed object
stands in a text whose part before it holds no `{` and whose part after it holds no `}`, the
braces found are the object's own first and last characters and the span is exactly the printed
object (`Prompt.extractJson_enclosed`).  When no `{` is followed later by a `}`, there is no
span at all (`Prompt.extractJson_eq_none_iff`).

Main statement: `printed_object_read_back`.  A text made of a prefix without `{`, a printed
object and a suffix without `}` reads as the record the object constructs, and an HTTP model
whose chat server answers with that text as its first choice returns that record.  Printing
and reading the object back must give it back; the reader is assumed to do so, as the
printer's documentation promises only for some doubles.  A text with no brace span is
malformed output.
-/

namespace PromptTrainer

/-- A text holds a `{` followed, somewhere after it, by a `}`. -/
def HasBraceSpan (text : String) : Prop :=
  ∃ before inside after : List Char, text.toList = before ++ '{' :: inside ++ '}' :: after

namespace Prompt

/-- Dropping characters up to the first `c` skips a prefix that holds none. -/
theorem dropWhile_ne_of_not_mem {c : Char} {before : List Char} (absent : c ∉ before)
    (rest : List Char) : (before ++ c :: rest).dropWhile (· != c) = c :: rest := by
  have skipped : ∀ x ∈ before, (x != c) = true := by
    intro x member
    simp only [bne_iff_ne, ne_eq]
    rintro rfl
    exact absent member
  rw [List.dropWhile_append_of_pos skipped, List.dropWhile_cons_of_neg (by simp)]

/-- A character after the first `o` survives dropping up to that `o`. -/
theorem mem_dropWhile_of_after {o c : Char} (before rest : List Char) (later : c ∈ rest) :
    c ∈ (before ++ o :: rest).dropWhile (· != o) := by
  rw [List.dropWhile_append]
  split
  · rw [List.dropWhile_cons_of_neg (by simp)]
    exact List.mem_cons_of_mem o later
  · exact List.mem_append_right _ (List.mem_cons_of_mem o later)

/-- Once the characters before the first `o` are dropped, a `c` other than `o` is left exactly
when the list holds an `o` followed by a `c`. -/
theorem mem_dropWhile_ne_iff {o c : Char} (other : c ≠ o) (l : List Char) :
    c ∈ l.dropWhile (· != o) ↔ ∃ before inside after, l = before ++ o :: inside ++ c :: after := by
  constructor
  · intro member
    obtain ⟨before, whole⟩ := List.dropWhile_suffix (· != o) (l := l)
    cases left : l.dropWhile (· != o) with
    | nil => rw [left] at member; cases member
    | cons head rest =>
      have stopped : (head != o) = false := by
        have := List.head_dropWhile_not (· != o) (l := l) (by simp [left])
        simpa [left] using this
      have opened : head = o := by simpa using stopped
      rw [left, opened] at member
      have inRest : c ∈ rest := (List.mem_cons.mp member).resolve_left other
      obtain ⟨inside, after, rfl⟩ := List.append_of_mem inRest
      refine ⟨before, inside, after, ?_⟩
      rw [← whole, left, opened]
      simp
  · rintro ⟨before, inside, after, rfl⟩
    have regrouped : before ++ o :: inside ++ c :: after = before ++ o :: (inside ++ c :: after) := by
      simp
    rw [regrouped]
    exact mem_dropWhile_of_after before _ (List.mem_append_right _ List.mem_cons_self)

/-- The span read from a text that is a prefix without `{`, a text from `{` to `}`, and a
suffix without `}` is that middle text. -/
theorem extractJson_enclosed {before text after : String} {inside : List Char}
    (shape : text.toList = '{' :: inside ++ ['}'])
    (noOpen : '{' ∉ before.toList) (noClose : '}' ∉ after.toList) :
    extractJson (before ++ text ++ after) = some text := by
  have opened : (before ++ text ++ after).toList.dropWhile (· != '{') =
      '{' :: (inside ++ '}' :: after.toList) := by
    rw [String.toList_append, String.toList_append, shape]
    simpa using dropWhile_ne_of_not_mem noOpen (inside ++ '}' :: after.toList)
  have closed : (('{' :: (inside ++ '}' :: after.toList)).reverse.dropWhile (· != '}')).reverse =
      text.toList := by
    have reversed : ('{' :: (inside ++ '}' :: after.toList)).reverse =
        after.toList.reverse ++ '}' :: (inside.reverse ++ ['{']) := by simp
    rw [reversed, dropWhile_ne_of_not_mem (by simpa using noClose), shape]
    simp
  unfold extractJson
  dsimp only
  rw [opened, closed]
  split
  · rename_i empty
    rw [shape] at empty
    cases empty
  · rw [String.ofList_toList]

/-- A text has a brace span exactly when it holds a `{` followed later by a `}`. -/
theorem extractJson_eq_none_iff (text : String) : extractJson text = none ↔ ¬ HasBraceSpan text := by
  have closing : ((text.toList.dropWhile (· != '{')).reverse.dropWhile (· != '}')).reverse = [] ↔
      '}' ∉ text.toList.dropWhile (· != '{') := by
    rw [List.reverse_eq_nil_iff, List.dropWhile_eq_nil_iff]
    simp only [List.mem_reverse, bne_iff_ne, ne_eq]
    exact ⟨fun all member => all _ member rfl, fun absent x member same => absent (same ▸ member)⟩
  rw [HasBraceSpan, ← mem_dropWhile_ne_iff (by decide) text.toList, ← closing]
  unfold extractJson
  dsimp only
  generalize ((text.toList.dropWhile (· != '{')).reverse.dropWhile (· != '}')).reverse = span
  cases span <;> simp

end Prompt

/-- The compact text of an object runs from its opening to its closing brace. -/
theorem Json.compact_object_toList (members : List (String × Json)) :
    (Json.compact (.object members)).toList = '{' :: (Json.compactMembers members).toList ++ ['}'] := by
  show ("\x7b" ++ Json.compactMembers members ++ "\x7d").toList = _
  simp [String.toList_append]

/-- A success reply stands for the record its delivered content reads as: a `204 No Content`
reply delivers no body. -/
theorem readReply_of_content {schema : Schema} {reply : ChatReply} {content : String}
    (success : 200 ≤ reply.status ∧ reply.status < 300)
    (read : chatContent (if reply.status == 204 then "" else reply.body) = .ok content) :
    readReply schema reply = structuredOutput schema content := by
  unfold readReply
  rw [if_pos success, read]
  rfl

namespace HttpModel

/-- The model's request for a generation reaches the chat server, which answers it with the
reply: the prompt renders, the API key (if any) is a valid header value, the server listens at
the model's endpoint and has the reply next. -/
def Reaches (m : HttpModel) (server : ChatServer) (request : GenerationRequest)
    (reply : ChatReply) : Prop :=
  (∃ messages, Prompt.messages request = .ok messages) ∧
    m.apiKey.any (fun key => !validHeaderValue ("Bearer " ++ key)) = false ∧
    server.endpoint = m.endpoint ∧ server.replies.head? = some reply

/-- A request that reaches the server is answered by reading the server's reply. -/
theorem generate_of_reaches {m : HttpModel} {server : ChatServer} {request : GenerationRequest}
    {reply : ChatReply} (reaches : m.Reaches server request reply) :
    (m.generate (some server) request).1 = readReply request.outputSchema reply := by
  obtain ⟨⟨messages, rendered⟩, keyValid, listening, next⟩ := reaches
  obtain ⟨rest, queued⟩ : ∃ rest, server.replies = reply :: rest := by
    cases replies : server.replies with
    | nil => rw [replies] at next; cases next
    | cons head rest =>
      rw [replies] at next
      cases next
      exact ⟨rest, rfl⟩
  unfold generate
  simp only [rendered, keyValid, listening, beq_self_eq_true, if_true, Bool.false_eq_true,
    if_false, ChatServer.answer, queued]

end HttpModel

/-- A text made of a prefix without `{`, the compact print of an object and a suffix without
`}` is read as the record the object constructs, provided reading the print gives the object
back; an HTTP model whose chat server answers with that text as its first choice returns that
record.  A text in which no `{` is followed later by a `}` is malformed output. -/
theorem printed_object_read_back (schema : Schema) (d : Json) (r : Record) (before after : String)
    (constructed : Record.construct schema d = .ok r)
    (noOpen : '{' ∉ before.toList) (noClose : '}' ∉ after.toList)
    (readBack : Json.parse (Json.compact d) = .ok d) :
    structuredOutput schema (before ++ Json.compact d ++ after) = .ok r ∧
    (∀ (m : HttpModel) (server : ChatServer) (request : GenerationRequest) (reply : ChatReply),
      request.outputSchema = schema → m.Reaches server request reply →
      200 ≤ reply.status ∧ reply.status < 300 →
      chatContent (if reply.status == 204 then "" else reply.body) =
        .ok (before ++ Json.compact d ++ after) →
      (m.generate (some server) request).1 = .ok r) ∧
    ∀ output : String, ¬ HasBraceSpan output →
      structuredOutput schema output = .error (.malformed "output did not contain a JSON object") := by
  -- the data constructs, so it is an object and its print runs from brace to brace
  obtain ⟨members, rfl, -, -⟩ := Record.construct_eq_ok_iff.mp constructed
  have extracted := Prompt.extractJson_enclosed (Json.compact_object_toList members) noOpen noClose
  have read : structuredOutput schema (before ++ Json.compact (.object members) ++ after) = .ok r := by
    unfold structuredOutput
    simp only [extracted, readBack, constructed]
  refine ⟨read, ?_, ?_⟩
  · intro m server request reply outputSchema reaches success content
    rw [HttpModel.generate_of_reaches reaches, readReply_of_content success content, outputSchema,
      read]
  · intro output noSpan
    unfold structuredOutput
    rw [(Prompt.extractJson_eq_none_iff output).mpr noSpan]

/-- The reply text `Sure! {"answer":"Paris"} Hope that helps.` is read as the record whose
answer is `Paris`, and an HTTP model whose server sends it returns that record. -/
theorem printed_object_read_back_answer :
    Record.construct ⟨none, [Field.ofRequired "answer" .string]⟩
        (.object [("answer", .string "Paris")]) =
      .ok ⟨⟨none, [Field.ofRequired "answer" .string]⟩, [("answer", .string "Paris")]⟩ ∧
    '{' ∉ "Sure! ".toList ∧ '}' ∉ " Hope that helps.".toList ∧
    Json.parse (Json.compact (.object [("answer", .string "Paris")])) =
      .ok (.object [("answer", .string "Paris")]) ∧
    structuredOutput ⟨none, [Field.ofRequired "answer" .string]⟩
        ("Sure! " ++ Json.compact (.object [("answer", .string "Paris")]) ++ " Hope that helps.") =
      .ok ⟨⟨none, [Field.ofRequired "answer" .string]⟩, [("answer", .string "Paris")]⟩ ∧
    (∀ (m : HttpModel) (server : ChatServer) (request : GenerationRequest) (reply : ChatReply),
      request.outputSchema = ⟨none, [Field.ofRequired "answer" .string]⟩ →
      m.Reaches server request reply → 200 ≤ reply.status ∧ reply.status < 300 →
      chatContent (if reply.status == 204 then "" else reply.body) =
        .ok ("Sure! " ++ Json.compact (.object [("answer", .string "Paris")]) ++
          " Hope that helps.") →
      (m.generate (some server) request).1 =
        .ok ⟨⟨none, [Field.ofRequired "answer" .string]⟩, [("answer", .string "Paris")]⟩) ∧
    ∀ output : String, ¬ HasBraceSpan output →
      structuredOutput ⟨none, [Field.ofRequired "answer" .string]⟩ output =
        .error (.malformed "output did not contain a JSON object") := by
  have constructed : Record.construct ⟨none, [Field.ofRequired "answer" .string]⟩
      (.object [("answer", .string "Paris")]) =
      .ok ⟨⟨none, [Field.ofRequired "answer" .string]⟩, [("answer", .string "Paris")]⟩ := rfl
  have noOpen : '{' ∉ "Sure! ".toList := by decide
  have noClose : '}' ∉ " Hope that helps.".toList := by decide
  have readBack : Json.parse (Json.compact (.object [("answer", .string "Paris")])) =
      .ok (.object [("answer", .string "Paris")]) := by with_unfolding_all rfl
  exact ⟨constructed, noOpen, noClose, readBack,
    printed_object_read_back _ _ _ _ _ constructed noOpen noClose readBack⟩

end PromptTrainer
