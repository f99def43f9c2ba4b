import LoxTokens.Proofs.Scan.Log
import LoxTokens.Proofs.Scan.Place
import LoxTokens.Proofs.Scan.Spelling

/-!
The records of a scan and its source. Each token and each error is recorded once, in the order in
which they stand in the source, whatever of them is a token and whatever an error. A filter only
chooses among these records and changes nothing else.
-/

namespace LoxTokens

open Piece

universe u

namespace Log

theorem Filter.keep_upTo_trace (rs : List Record) : (Filter.upTo .trace).keep rs = rs := by
  refine List.filter_eq_self.mpr fun r _ => ?_
  cases r.level <;> rfl

end Log

def Token.record (t : Token) : Log.Record :=
  ⟨.trace, Scan.target, t.inspect⟩

def LexicalError.record (e : LexicalError) : Log.Record :=
  ⟨.debug, Scan.target, e.inspect⟩

namespace ScanEvent

-- The text that an event is about. An unclosed string is all text from its quote on.
inductive Covers : List Char → ScanEvent → Prop
  | token {text : List Char} : t.lexeme.toList = text → Covers text (.token t)
  | unexpectedCharacter {line : UInt32} : Covers [c] (.error <| .unexpectedCharacter line c)
  | unterminatedString {line : UInt32} : Covers ('"' :: cs) (.error <| .unterminatedString line)

variable (es : List ScanEvent)

-- The level of a record tells a token from an error.

theorem filter_record_trace :
    (es.map record).filter (·.level = .trace) = (es.filterMap token?).map Token.record := by
  induction es
  case nil          => rfl
  case cons e es hi => cases e <;> simp [record, Token.record, hi, List.filterMap_cons]

theorem filter_record_debug :
    (es.map record).filter (·.level = .debug) = (es.filterMap error?).map LexicalError.record := by
  induction es
  case nil          => rfl
  case cons e es hi => cases e <;> simp [record, LexicalError.record, hi, List.filterMap_cons]

end ScanEvent

namespace Scan

variable {source : String} {q : Placed}

theorem covers_of_mem_event? {e : ScanEvent} (h : q ∈ placed source) (he : e ∈ q.event?) :
    e.Covers q.text := by
  have ⟨_, _, _, hq⟩ := exists_between_of_mem_placed h
  unfold Placed.event? Piece.event? at he
  split at he <;> cases he
  case h_1 => exact .token String.toList_ofList
  case h_2 hk =>
    have ⟨cs, ht⟩ := hq.leads.shape.text_of_openString hk
    exact ht ▸ .unterminatedString
  case h_3 hk =>
    exact hq.leads.shape.text_of_stray hk ▸ .unexpectedCharacter

theorem start_lt_stop_of_mem_placed (h : q ∈ placed source) : q.start < q.stop := by
  have ⟨_, _, _, hq⟩ := exists_between_of_mem_placed h
  exact Nat.lt_add_of_pos_right <| List.length_pos_iff.mpr hq.leads.shape.text_ne_nil

theorem eventsOf_eq_filterMap_placed : eventsOf source = (placed source).filterMap Placed.event? :=
  filterMap_event?_place.symm

theorem filter_type_ne_eof_scan_tokens :
    (scan source).tokens.filter (·.type ≠ .eof) = tokensOf source := by
  have : (tokensOf source).filter (·.type ≠ .eof) = tokensOf source :=
    List.filter_eq_self.mpr fun t ht => decide_eq_true <| type_ne_eof_of_mem_tokensOf ht
  rw [scan_tokens, List.filter_append, this]
  simp [Token.eof]

end Scan

theorem scanLog_in_order (filter : Log.Filter) (source : String) :
    let records := scanLog (.upTo .trace) source
    let events  := (Scan.placed source).filterMap Placed.event?
    let tokens  := (scan source).tokens.filter (·.type ≠ .eof)
    let errors  := events.filterMap ScanEvent.error?
    let bytes   := "==== Scan " ++ toString source.utf8ByteSize ++ " bytes ===="
    let count   := "==== Scanned " ++ toString (scan source).tokens.length ++ " tokens ===="
    -- another level keeps some of the records, and does so without an effect on the results
    scanLog filter source = records.filter (filter.allows ·.level) ∧
    (∀ (σ : Type u) (report : σ → Diagnostic → σ) sink log,
      let last := Scan.run filter report sink log source
      (last.tokens.toList, last.sink) = Scan.into report sink source) ∧
    -- all records, those of the events where the events stand in the source
    records = [⟨.debug, Scan.target, bytes⟩] ++ events.map ScanEvent.record ++
      [⟨.debug, Scan.target, count⟩] ∧
    (Scan.placed source).Pairwise (fun q r => q.start < q.stop ∧ q.stop ≤ r.start) ∧
    (∀ q ∈ Scan.placed source,
      (∃ after, source.toList.drop q.start = q.text ++ after) ∧ ∀ e ∈ q.event?, e.Covers q.text) ∧
    -- tokens and errors each by themselves
    events.filterMap ScanEvent.token? = tokens ∧
    records.filter (·.level = .trace) = tokens.map Token.record ∧
    records.tail.dropLast.filter (·.level = .debug) = errors.map LexicalError.record ∧
    (scan source).diagnostics.toList = errors.map LexicalError.diagnostic := by
  intro records events tokens errors bytes count
  have he : events = Scan.eventsOf source := Scan.eventsOf_eq_filterMap_placed.symm
  have hr : records = Scan.recordsOf source := by
    rw [← Log.Filter.keep_upTo_trace (Scan.recordsOf source)]
    exact scanLog_eq ..
  have hs : records = [⟨.debug, Scan.target, bytes⟩] ++ events.map ScanEvent.record ++
      [⟨.debug, Scan.target, count⟩] := by
    rw [hr, he]
    rfl
  have ht : events.filterMap ScanEvent.token? = tokens := by
    rw [he]
    exact Scan.filter_type_ne_eof_scan_tokens.symm
  refine ⟨?level, fun σ report sink log => ?results, hs, ?order, fun q hq => ?places, ht, ?tokens,
    ?errors, ?reports⟩
  case level   => rw [hr]; exact scanLog_eq ..
  case results =>
    intro last
    rw [Scan.into_eq, Scan.toList_run_tokens, Scan.run_sink]
  case order   =>
    exact Scan.placed_pairwise.imp_of_mem fun hq _ h => ⟨Scan.start_lt_stop_of_mem_placed hq, h⟩
  case places  =>
    have ⟨before, after, ht, hb⟩ := Scan.exists_between_of_mem_placed hq
    refine ⟨⟨after, ?_⟩, fun e => Scan.covers_of_mem_event? hq⟩
    rw [ht, hb.start, List.append_assoc, List.drop_left]
  case tokens  =>
    rw [← ht, ← ScanEvent.filter_record_trace, hs]
    simp
  case errors  =>
    rw [← ScanEvent.filter_record_debug, hs]
    simp
  case reports =>
    rw [toList_scan_diagnostics, Scan.errorsOf, ← he]

-- The last token is counted and not recorded.
example :
    scanLog (.upTo .trace) "+@" = [
      ⟨.debug, Scan.target, "==== Scan 2 bytes ===="⟩,
      ⟨.trace, Scan.target,
        "Token \x7b token_type: Plus, lexeme: \"+\", literal: None, line: 1 \x7d"⟩,
      ⟨.debug, Scan.target, "UnexpectedCharacter \x7b line: 1, character: '@' \x7d"⟩,
      ⟨.debug, Scan.target, "==== Scanned 2 tokens ===="⟩] := by
  decide +kernel

end LoxTokens
