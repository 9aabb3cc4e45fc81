import DefaultCredentials.Log.Sink
import DefaultCredentials.Proofs.DocumentRoundTrip

/-!
# Lines of a JSON sink

What a JSON sink writes for a record is held against the entry of the record.

* `Markup.length_stripPiece_lt`: removing markup shortens a piece that has a tag, and by
  `Markup.stripPiece_of_hasTag_eq_false` leaves alone one that has none.
* `Template.line_doubleBraces_iff`: doubled braces are made single again, so a template becomes the
  text that it was made of exactly if no piece of it has a tag.
* `Entry.carries_members`: what the members of an entry are, and that none replaces the head.
* `Sink.jsonLine_lossless`: the line of an entry.
-/

namespace DefaultCredentials.Log

namespace Markup

/-! ### Tags in a piece -/

/-- Whether a tag is somewhere in a piece. -/
def hasTag : List Char → Bool
  | [] => false
  | c :: rest => (tag? (c :: rest)).isSome || hasTag rest

theorem tag?_of_hasTag_eq_false {cs : List Char} (h : hasTag cs = false) : tag? cs = none := by
  cases cs with
  | nil => rfl
  | cons c rest =>
      rw [hasTag, Bool.or_eq_false_iff, Option.isSome_eq_false_iff, Option.isNone_iff_eq_none] at h
      exact h.1

/-- A piece without tags is kept as it is. -/
theorem stripPiece_of_hasTag_eq_false (opened : List String) {cs : List Char}
    (h : hasTag cs = false) : stripPiece opened 0 cs = some (cs, opened) := by
  induction cs with
  | nil => rfl
  | cons c rest ih =>
      have htag := tag?_of_hasTag_eq_false h
      rw [hasTag, Bool.or_eq_false_iff] at h
      have hrest := tag?_of_hasTag_eq_false h.2
      simp [stripPiece, htag, hrest, ih h.2]

/-- What becomes of the first character: it is kept where no tag begins, or it is the backslash
before a tag that is passed over and kept, or a tag begins and is dropped. -/
theorem stripPiece_cons {opened after : List String} {c : Char} {rest kept : List Char}
    (h : stripPiece opened 0 (c :: rest) = some (kept, after)) :
    (tag? (c :: rest) = none ∧
        ∃ k, kept = c :: k ∧ stripPiece opened 0 rest = some (k, after)) ∨
      (∃ size k, kept = rest.take size ++ k ∧ stripPiece opened size rest = some (k, after)) ∨
      ∃ before passed, stripPiece before passed rest = some (kept, after) := by
  rw [stripPiece] at h
  split at h
  · rename_i hc
    rw [beq_iff_eq] at hc
    split at h
    · rename_i size _
      obtain ⟨⟨k, o⟩, hk, heq⟩ := Option.map_eq_some_iff.mp h
      cases heq
      exact .inr (.inl ⟨size, k, rfl, hk⟩)
    · obtain ⟨⟨k, o⟩, hk, heq⟩ := Option.map_eq_some_iff.mp h
      cases heq
      exact .inl ⟨by rw [hc]; rfl, k, rfl, hk⟩
  · split at h
    · split at h
      · exact .inr (.inr ⟨_, _, h⟩)
      · cases h
    · rename_i htag
      obtain ⟨⟨k, o⟩, hk, heq⟩ := Option.map_eq_some_iff.mp h
      cases heq
      exact .inl ⟨htag, k, rfl, hk⟩

theorem length_stripPiece_le {opened after : List String} {passed : ℕ} {cs kept : List Char}
    (h : stripPiece opened passed cs = some (kept, after)) :
    kept.length + min passed cs.length ≤ cs.length := by
  induction cs generalizing opened passed kept with
  | nil =>
      rw [stripPiece] at h
      cases h
      simp
  | cons c rest ih =>
      rw [List.length_cons]
      cases passed with
      | succ passed =>
          have hrest := ih h
          omega
      | zero =>
          obtain ⟨-, k, rfl, hk⟩ | ⟨size, k, rfl, hk⟩ | ⟨before, passed, hk⟩ := stripPiece_cons h
          · have hrest := ih hk
            rw [List.length_cons]
            omega
          · have hrest := ih hk
            rw [List.length_append, List.length_take]
            omega
          · have hrest := ih hk
            omega

/-- What is kept of a piece with a tag is shorter. -/
theorem length_stripPiece_lt {opened after : List String} {cs kept : List Char}
    (h : stripPiece opened 0 cs = some (kept, after)) (htag : hasTag cs = true) :
    kept.length < cs.length := by
  induction cs generalizing opened kept with
  | nil => cases htag
  | cons c rest ih =>
      rw [List.length_cons]
      obtain ⟨hnone, k, rfl, hk⟩ | ⟨size, k, rfl, hk⟩ | ⟨before, passed, hk⟩ := stripPiece_cons h
      · rw [hasTag, hnone, Option.isSome_none, Bool.false_or] at htag
        have hrest := ih hk htag
        rw [List.length_cons]
        omega
      · have hrest := length_stripPiece_le hk
        rw [List.length_append, List.length_take]
        omega
      · have hrest := length_stripPiece_le hk
        omega

/-! ### Pieces in turn -/

theorem flatten_pieces (cs : List Char) : (pieces cs).flatten = cs := by
  induction cs with
  | nil => rfl
  | cons c rest ih =>
      rw [pieces]
      split
      · rw [List.flatten_cons, ih]
        rfl
      · split
        · rename_i hnil
          rw [hnil] at ih
          rw [← ih]
          rfl
        · rename_i hcons
          rw [hcons] at ih
          rw [← ih]
          rfl

theorem stripAll_of_hasTag_eq_false {pieces : List (List Char)}
    (h : ∀ p ∈ pieces, hasTag p = false) : stripAll [] pieces = some pieces := by
  induction pieces with
  | nil => rfl
  | cons p rest ih =>
      obtain ⟨hp, hrest⟩ := List.forall_mem_cons.mp h
      rw [stripAll, stripPiece_of_hasTag_eq_false [] hp]
      dsimp only
      rw [ih hrest, Option.map_some]

/-- What is kept of pieces is no longer, and shorter if there is a tag in one of them. -/
theorem length_stripAll {opened : List String} {pieces kept : List (List Char)}
    (h : stripAll opened pieces = some kept) :
    kept.flatten.length ≤ pieces.flatten.length ∧
      ((∃ p ∈ pieces, hasTag p = true) → kept.flatten.length < pieces.flatten.length) := by
  induction pieces generalizing opened kept with
  | nil =>
      rw [stripAll] at h
      split at h <;> cases h
      exact ⟨le_rfl, fun ⟨_, hp, _⟩ => absurd hp List.not_mem_nil⟩
  | cons p rest ih =>
      rw [stripAll] at h
      split at h
      · rename_i first after hfirst
        obtain ⟨others, hothers, rfl⟩ := Option.map_eq_some_iff.mp h
        obtain ⟨hle, hlt⟩ := ih hothers
        have hone := length_stripPiece_le hfirst
        simp only [List.flatten_cons, List.length_append, List.exists_mem_cons_iff]
        refine ⟨by omega, ?_⟩
        rintro (htag | htag)
        · have hshort := length_stripPiece_lt hfirst htag
          omega
        · have hshort := hlt htag
          omega
      · cases h

end Markup

namespace Template

open Entry (doubleBraces)

/-! ### Doubled braces -/

theorem doubleBraces_cons (c : Char) (cs : List Char) :
    doubleBraces (c :: cs) = (if isBrace c then [c, c] else [c]) ++ doubleBraces cs := rfl

theorem doubleBraces_append (cs ds : List Char) :
    doubleBraces (cs ++ ds) = doubleBraces cs ++ doubleBraces ds :=
  List.flatMap_append

theorem doubleBraces_flatten (texts : List (List Char)) :
    doubleBraces texts.flatten = (texts.map doubleBraces).flatten := by
  induction texts with
  | nil => rfl
  | cons text texts ih =>
      rw [List.flatten_cons, List.map_cons, List.flatten_cons, ← ih, doubleBraces_append]

/-- Doubled braces are made single again. -/
theorem undouble_doubleBraces (cs : List Char) : undouble (doubleBraces cs) = some cs := by
  induction cs with
  | nil => rfl
  | cons c cs ih =>
      rw [doubleBraces_cons, undouble.eq_def]
      by_cases hc : isBrace c = true
      · simp [hc, ih]
      · simp [hc, ih]

theorem eq_doubleBraces_of_undouble {template cs : List Char} (h : undouble template = some cs) :
    template = doubleBraces cs := by
  fun_induction undouble template generalizing cs with
  | case1 =>
      cases h
      rfl
  | case2 c hc d rest hd ih =>
      obtain ⟨ds, hds, rfl⟩ := Option.map_eq_some_iff.mp h
      rw [beq_iff_eq] at hd
      rw [hd, doubleBraces_cons, if_pos hc, ih hds]
      rfl
  | case3 => cases h
  | case4 => cases h
  | case5 c rest hc ih =>
      obtain ⟨ds, hds, rfl⟩ := Option.map_eq_some_iff.mp h
      rw [doubleBraces_cons, if_neg hc, ih hds]
      rfl

theorem flatten_pieces (text : List Char) : (pieces text).flatten = doubleBraces text := by
  rw [pieces, ← doubleBraces_flatten, Markup.flatten_pieces]

/-- Whether no piece of a text has a tag in it. -/
def isTagFree (text : List Char) : Bool :=
  (pieces text).all fun p => !Markup.hasTag p

/-- **Lines.**  The template of a text becomes that text exactly if no piece of it has a tag. -/
theorem line_doubleBraces_iff (text : List Char) :
    line (doubleBraces text) = some text ↔ isTagFree text = true := by
  have hflatten := flatten_pieces text
  have hfree : isTagFree text = true ↔ ∀ p ∈ pieces text, Markup.hasTag p = false := by
    simp [isTagFree]
  have hline : line (doubleBraces text) =
      (Markup.stripAll [] (pieces text)).bind fun kept => undouble kept.flatten := by
    rw [line, undouble_doubleBraces]
    rfl
  rw [hline, hfree, Option.bind_eq_some_iff]
  constructor
  · rintro ⟨kept, hkept, hsingle⟩
    have hsame := congrArg List.length (eq_doubleBraces_of_undouble hsingle)
    obtain ⟨-, hshort⟩ := Markup.length_stripAll hkept
    intro p hp
    rw [Bool.eq_false_iff]
    intro htag
    have hlt := hshort ⟨p, hp, htag⟩
    rw [hflatten, hsame] at hlt
    exact absurd hlt (lt_irrefl _)
  · intro hnone
    refine ⟨pieces text, Markup.stripAll_of_hasTag_eq_false hnone, ?_⟩
    rw [hflatten, undouble_doubleBraces]

end Template

namespace Entry

/-! ### Members of an entry -/

/-- What an entry carries: the head, every other further member unless the exception takes its
place, the exception, and nothing else. -/
structure Carries (head extra : List (String × Value)) (exception : Option LoggedException)
    (entry : List (String × Value)) : Prop where
  distinct : (entry.map (·.1)).Nodup
  ofHead : ∀ m ∈ head, m ∈ entry
  ofExtra : ∀ m ∈ extra, m.1 ∉ head.map (·.1) → exception = none ∨ m.1 ≠ "exception" → m ∈ entry
  ofRaised : ∀ e, exception = some e → ("exception", ofException e) ∈ entry
  only : ∀ m ∈ entry, m ∈ head ∨ m ∈ extra ∨
    ∃ e, exception = some e ∧ m = ("exception", ofException e)

variable {head extra : List (String × Value)}

theorem foldl_addNew (hextra : (extra.map (·.1)).Nodup) :
    extra.foldl addNew head =
      head ++ extra.filter fun m => decide (m.1 ∉ head.map (·.1)) := by
  induction extra generalizing head with
  | nil => simp
  | cons m rest ih =>
      rw [List.map_cons, List.nodup_cons] at hextra
      rw [List.foldl_cons, ih hextra.2]
      by_cases hm : m.1 ∈ head.map (·.1)
      · have hany : head.any (·.1 == m.1) = true := by
          obtain ⟨n, hn, heq⟩ := List.mem_map.mp hm
          exact List.any_eq_true.mpr ⟨n, hn, beq_iff_eq.mpr heq⟩
        rw [addNew_of_mem hany, List.filter_cons_of_neg (by simpa using hm)]
      · have hany : ¬ head.any (·.1 == m.1) = true := by
          intro h
          obtain ⟨n, hn, heq⟩ := List.any_eq_true.mp h
          exact hm (List.mem_map.mpr ⟨n, hn, beq_iff_eq.mp heq⟩)
        have hfilter : rest.filter (fun n => decide (n.1 ∉ (head ++ [m]).map (·.1))) =
            rest.filter fun n => decide (n.1 ∉ head.map (·.1)) := by
          refine List.filter_congr fun n hn => ?_
          have hne : n.1 ≠ m.1 := fun h => hextra.1 (h ▸ List.mem_map_of_mem hn)
          simp [hne]
        rw [addNew, if_neg hany, hfilter, List.filter_cons_of_pos (by simpa using hm),
          List.append_assoc]
        rfl

theorem nodup_foldl_addNew (hhead : (head.map (·.1)).Nodup) (hextra : (extra.map (·.1)).Nodup) :
    ((extra.foldl addNew head).map (·.1)).Nodup := by
  rw [foldl_addNew hextra, List.map_append, List.nodup_append]
  refine ⟨hhead, (List.filter_sublist.map _).nodup hextra, fun a ha b hb => ?_⟩
  obtain ⟨m, hm, rfl⟩ := List.mem_map.mp hb
  have hnot := of_decide_eq_true (List.mem_filter.mp hm).2
  exact fun heq => hnot (heq ▸ ha)

/-- **Entries.**  An entry carries the head, the further members and the exception. -/
theorem carries_members (hhead : (head.map (·.1)).Nodup) (hname : "exception" ∉ head.map (·.1))
    (hextra : (extra.map (·.1)).Nodup) (exception : Option LoggedException) :
    Carries head extra exception (members head extra exception) := by
  have hall := @foldl_addNew head extra hextra
  have hdistinct := nodup_foldl_addNew hhead hextra
  have hmem {m : String × Value} : m ∈ extra.foldl addNew head ↔
      m ∈ head ∨ m ∈ extra ∧ m.1 ∉ head.map (·.1) := by
    rw [hall, List.mem_append, List.mem_filter, decide_eq_true_iff]
  cases exception with
  | none =>
      exact {
        distinct := hdistinct
        ofHead := fun m hm => hmem.mpr (.inl hm)
        ofExtra := fun m hm hnot _ => hmem.mpr (.inr ⟨hm, hnot⟩)
        ofRaised := nofun
        only := fun m hm => (hmem.mp hm).imp_right fun h => .inl h.1 }
  | some e =>
      have hput {m : String × Value} : m ∈ members head extra (some e) ↔
          m = ("exception", ofException e) ∨ m ∈ extra.foldl addNew head ∧ m.1 ≠ "exception" :=
        Entries.mem_put hdistinct
      exact {
        distinct := Entries.nodup_put hdistinct _ _
        ofHead := fun m hm => hput.mpr (.inr ⟨hmem.mpr (.inl hm), fun h =>
          hname (h ▸ List.mem_map_of_mem hm)⟩)
        ofExtra := fun m hm hnot hother => hput.mpr (.inr ⟨hmem.mpr (.inr ⟨hm, hnot⟩),
          hother.resolve_left (by simp)⟩)
        ofRaised := by
          rintro _ ⟨⟩
          exact hput.mpr (.inl rfl)
        only := by
          intro m hm
          obtain rfl | ⟨hm, -⟩ := hput.mp hm
          · exact .inr (.inr ⟨e, rfl, rfl⟩)
          · exact (hmem.mp hm).imp_right fun h => .inl h.1 }

def canHold (v : Value) : Bool :=
  Json.isRenderable (Json.maxDepth - 1) v

theorem canHold_text (s : String) : canHold (.text s) = true := by
  have hdepth : Json.maxDepth - 1 = 988 + 1 := rfl
  simp [canHold, hdepth, Json.isRenderable]

theorem canHold_ofException (e : LoggedException) : canHold (ofException e) = true := by
  have hdepth : Json.maxDepth - 1 = 987 + 1 + 1 := rfl
  rcases e with ⟨_ | type, _ | value⟩ <;>
    simp [canHold, hdepth, ofException, ofText, Json.isRenderable]

/-- An entry of values that can be its members can be rendered. -/
theorem Carries.render? {exception : Option LoggedException} {entry : List (String × Value)}
    (h : Carries head extra exception entry) (hhead : ∀ m ∈ head, canHold m.2 = true)
    (hextra : ∀ m ∈ extra, canHold m.2 = true) :
    Json.render? (.object entry) = some (Json.write (.object entry)) := by
  refine Json.render?_eq_some.mpr ⟨?_, rfl⟩
  have hdepth : Json.maxDepth = Json.maxDepth - 1 + 1 := rfl
  rw [hdepth, Json.isRenderable, Bool.and_eq_true, decide_eq_true_iff, List.all_eq_true]
  refine ⟨h.distinct, fun m hm => ?_⟩
  rcases h.only m hm with hm | hm | ⟨e, -, rfl⟩
  · exact hhead m hm
  · exact hextra m hm
  · exact canHold_ofException e

end Entry

namespace Sink

/-! ### Lines -/

/-- The line of an entry is that of its document with the braces doubled. -/
theorem jsonLine_eq (entry : List (String × Value)) :
    jsonLine entry = (Template.line (Entry.doubleBraces
      (Json.writeValue (.object entry) ++ ['\n']))).map String.ofList := by
  rw [jsonLine, Entry.template, Json.write, String.toList_ofList, String.toList_ofList,
    Template.doubleBraces_append]
  rfl

theorem toList_write_append (v : Value) :
    (Json.write v ++ "\n").toList = Json.writeValue v ++ ['\n'] := by
  rw [Json.write, String.toList_append, String.toList_ofList]
  rfl

/-- **Lines of a JSON sink.**  Whatever a record holds, its entry carries the head, the further
members and the exception, and the document of the entry is one line that is read as the entry.
That document is what the sink writes exactly if no text in it looks like markup: braces are safe,
tags are not. -/
theorem jsonLine_lossless {o : Origin} {extra : List (String × Value)}
    (ho : Entry.canHold o.logger = true ∧ Entry.canHold o.function = true ∧
      Entry.canHold o.line = true)
    (hnames : (extra.map (·.1)).Nodup) (hextra : ∀ m ∈ extra, Entry.canHold m.2 = true)
    (microseconds : ℤ) (level message : String) (exception : Option LoggedException) :
    let head := Entry.head microseconds level (.text message) o
    let entry := Entry.members head extra exception
    let payload := Json.write (.object entry)
    Entry.Carries head extra exception entry ∧ '\n' ∉ payload.toList ∧
      Json.read payload = .ok (.object entry) ∧
      (jsonLine entry = some (payload ++ "\n") ↔
        Template.isTagFree (payload ++ "\n").toList = true) := by
  intro head entry payload
  have hheadNames : head.map (·.1) =
      ["timestamp", "severity", "message", "logger", "function", "line"] := rfl
  have hdistinct : (head.map (·.1)).Nodup := hheadNames ▸ by decide
  have hname : "exception" ∉ head.map (·.1) := hheadNames ▸ by decide
  have hcarries : Entry.Carries head extra exception entry :=
    Entry.carries_members hdistinct hname hnames exception
  have hhead : ∀ m ∈ head, Entry.canHold m.2 = true := by
    simp [head, Entry.head, Entry.canHold_text, ho]
  have hrender := hcarries.render? hhead hextra
  refine ⟨hcarries, ?_, Json.read_of_render? hrender, ?_⟩
  · intro hnewline
    have hwritten : payload.toList = Json.writeValue (.object entry) := String.toList_ofList
    rw [hwritten] at hnewline
    exact absurd (Json.isPlain_of_mem_writeValue _ _ hnewline) (by decide)
  · rw [toList_write_append, ← Template.line_doubleBraces_iff, jsonLine_eq,
      Option.map_eq_some_iff]
    constructor
    · rintro ⟨line, hline, heq⟩
      rw [hline, ← toList_write_append, ← heq, String.toList_ofList]
    · intro hline
      exact ⟨_, hline, by rw [← toList_write_append, String.ofList_toList]⟩

def refreshOrigin : Origin :=
  ⟨.text "adcred.refresh", .text "refresh", .int 40⟩

/-- Members of a record, one of which has the name of a member of the head. -/
def refreshExtra : List (String × Value) :=
  [("severity", .text "LOW"), ("reason", .object [("{}", .list [.int 7, .null])])]

theorem jsonLine_lossless_failure :
    let head := Entry.head 0 "WARNING" (.text "no \x7b\"token\"\x7d\nfor käufer") refreshOrigin
    let entry := Entry.members head refreshExtra (some ⟨some "ValueError", none⟩)
    let payload := Json.write (.object entry)
    jsonLine entry = some (payload ++ "\n") ∧ Json.read payload = .ok (.object entry) ∧
      ("severity", .text "WARNING") ∈ entry := by
  have hseverity : severity "WARNING" = "WARNING" := by decide
  obtain ⟨hcarries, -, hread, hline⟩ :=
    @jsonLine_lossless refreshOrigin refreshExtra (by decide +kernel) (by decide)
      (by decide +kernel) 0 "WARNING" "no \x7b\"token\"\x7d\nfor käufer"
      (some ⟨some "ValueError", none⟩)
  refine ⟨hline.mpr ?_, hread, hcarries.ofHead _ ?_⟩
  · rw [toList_write_append]
    decide +kernel
  · rw [Entry.head, hseverity]
    exact List.mem_cons_of_mem _ List.mem_cons_self

/-- The entry of a message at a time. -/
def messageEntry (message function : String) : List (String × Value) :=
  Entry.members (Entry.head 0 "INFO" (.text message) ⟨.text "adcred", .text function, .int 1⟩) []
    none

/-- Markup in a message is gone from the line, and with a function whose name looks like markup the
record is gone. -/
theorem jsonLine_markup_lost :
    (¬ ∃ payload, jsonLine (messageEntry "a <b>bold</b> word" "main") = some (payload ++ "\n") ∧
        Json.read payload = .ok (.object (messageEntry "a <b>bold</b> word" "main"))) ∧
      jsonLine (messageEntry "started" "<module>") = none := by
  have hbold : jsonLine (messageEntry "a <b>bold</b> word" "main") =
      some (Json.write (.object (messageEntry "a bold word" "main")) ++ "\n") := by
    have hline : Template.line (Entry.doubleBraces
        (Json.writeValue (.object (messageEntry "a <b>bold</b> word" "main")) ++ ['\n'])) =
        some (Json.writeValue (.object (messageEntry "a bold word" "main")) ++ ['\n']) := by
      decide +kernel
    rw [jsonLine_eq, hline, ← toList_write_append, Option.map_some, String.ofList_toList]
  have hmodule : Template.line (Entry.doubleBraces
      (Json.writeValue (.object (messageEntry "started" "<module>")) ++ ['\n'])) = none := by
    decide +kernel
  have hread : Json.read (Json.write (.object (messageEntry "a bold word" "main"))) =
      .ok (.object (messageEntry "a bold word" "main")) :=
    Json.read_of_render? (Json.render?_eq_some.mpr ⟨by decide +kernel, rfl⟩)
  constructor
  · rintro ⟨payload, hpayload, hbad⟩
    have hsame : payload = Json.write (.object (messageEntry "a bold word" "main")) := by
      have hlines := Option.some.inj (hpayload.symm.trans hbold)
      have hchars := congrArg String.toList hlines
      rw [String.toList_append, String.toList_append] at hchars
      exact String.toList_inj.mp (List.append_cancel_right hchars)
    rw [hsame, hread] at hbad
    have hentry := Value.object.inj (Except.ok.inj hbad)
    have hmessage : Value.text "a bold word" = .text "a <b>bold</b> word" :=
      congrArg (fun entry => Value.member entry "message") hentry
    exact absurd (Value.text.inj hmessage) (by decide)
  · rw [jsonLine_eq, hmodule]
    rfl

end Sink

end DefaultCredentials.Log
