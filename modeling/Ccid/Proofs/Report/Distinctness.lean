import Ccid.Proofs.Message.Reading
import Ccid.Proofs.Report.Words
import Ccid.Report.Atr
import Ccid.Report.Readers
import Ccid.Report.Status

/-!
The report texts lose nothing of what they report.

A status report and the line of a reader are words that blanks join, and a list of readers is lines
that line breaks join. Splitting a text thus gives back its words, and each word is written for one
value only. The first line of an Answer-To-Reset's report holds all of its octets.
-/

namespace Ccid

namespace Report

/-- The words of a status report; the last one is there only if there are any data. -/
def statusWords (report : StatusReport) : List String :=
  ["type=0x" ++ Hex.upper [report.kind.code], "seq=" ++ report.sequence.toNat.repr,
      "icc=" ++ Named.name report.icc, "command=" ++ Named.name report.command,
      "error=0x" ++ Hex.upper [report.error]] ++
    if report.data.isEmpty then [] else ["data=" ++ Hex.upper report.data]

/-- A status report is its words, joined by blanks. -/
theorem statusText_eq (report : StatusReport) :
    report.text = " ".intercalate (statusWords report) := by
  apply String.toList_inj.mp
  rw [String.toList_intercalate, statusWords]
  unfold StatusReport.text
  -- Without data there is neither a last word nor a blank in front of it.
  cases report.data.isEmpty <;> simp [List.intercalate]

/-- The name of a card's presence is one word. -/
theorem notMem_iccName (status : IccStatus) : ' ' ∉ (Named.name status).toList := by
  cases status <;> decide

/-- The name of a command's outcome is one word. -/
theorem notMem_commandName (status : CommandStatus) : ' ' ∉ (Named.name status).toList := by
  cases status <;> decide

/-- No word of a status report has a blank. -/
theorem notMem_statusWords (report : StatusReport) :
    ∀ word ∈ statusWords report, ' ' ∉ word.toList := by
  have digits : ∀ octets, ' ' ∉ (Hex.upper octets).toList := notMem_upper (by decide)
  have decimal : ∀ value, ' ' ∉ Nat.toDigits 10 value := notMem_toDigits (by decide)
  have icc := notMem_iccName report.icc
  have command := notMem_commandName report.command
  cases empty : report.data.isEmpty <;> simp [statusWords, empty, digits, decimal, icc, command]

/-- The last word of a status report tells the data, and so does its absence. -/
theorem data_eq_of_lastWord {first second : Octets}
    (same : (if first.isEmpty then [] else ["data=" ++ Hex.upper first]) =
      if second.isEmpty then [] else ["data=" ++ Hex.upper second]) : first = second := by
  cases first with
  | nil =>
    cases second with
    | nil => rfl
    | cons octet rest => cases same
  | cons octet rest =>
    cases second with
    | nil => cases same
    | cons other others =>
      have words := List.head_eq_of_cons_eq same
      exact upper_inj.mp ((String.append_right_inj _).mp words)

/-- A status report is told by its text. -/
theorem statusReport_eq_of_text {first second : StatusReport} (same : first.text = second.text) :
    first = second := by
  rw [statusText_eq, statusText_eq] at same
  have words := words_eq_of_joined rfl (by simp [statusWords]) (by simp [statusWords])
    (notMem_statusWords first) (notMem_statusWords second) same
  -- Behind its label, every word holds one field.
  simp only [statusWords, List.cons_append, List.nil_append, List.cons.injEq,
    String.append_right_inj] at words
  obtain ⟨kind, sequence, icc, command, error, data⟩ := words
  have sameKind : first.kind = second.kind :=
    ResponseKind.code_inj.mp (List.head_eq_of_cons_eq (upper_inj.mp kind))
  have sameSequence : first.sequence = second.sequence := octet_eq_of_repr sequence
  have sameIcc : first.icc = second.icc := Named.name_injective icc
  have sameCommand : first.command = second.command := Named.name_injective command
  have sameError : first.error = second.error := List.head_eq_of_cons_eq (upper_inj.mp error)
  have sameData : first.data = second.data := data_eq_of_lastWord data
  cases first
  cases second
  simp only [StatusReport.mk.injEq]
  exact ⟨sameKind, sameSequence, sameIcc, sameCommand, sameError, sameData⟩

/-- The words of a reader's line, two of which are empty where blanks stand side by side. -/
def readerWords (info : Usb.ReaderInfo) : List String :=
  [Hex.word .upper info.vendor ++ ":" ++ Hex.word .upper info.product, "", "bus",
    zeroPadded 3 info.bus.toNat, "address", zeroPadded 3 info.address.toNat, "", "interface",
    info.interface.toNat.repr]

/-- A reader's line is its words, joined by blanks. -/
theorem readerText_eq (info : Usb.ReaderInfo) :
    info.text = " ".intercalate (readerWords info) := by
  apply String.toList_inj.mp
  rw [String.toList_intercalate, readerWords, Usb.ReaderInfo.text]
  simp [List.intercalate]

/-- No word of a reader's line has a blank. -/
theorem notMem_readerWords (info : Usb.ReaderInfo) :
    ∀ word ∈ readerWords info, ' ' ∉ word.toList := by
  have digits : ∀ value, ' ' ∉ (Hex.word .upper value).toList := notMem_word (by decide) .upper
  have padded : ∀ value, ' ' ∉ (zeroPadded 3 value).toList := notMem_zeroPadded (by decide) 3
  have decimal : ∀ value, ' ' ∉ Nat.toDigits 10 value := notMem_toDigits (by decide)
  simp [readerWords, digits, padded, decimal]

/-- The identifiers of a reader are told by the word that they make up. -/
theorem ids_eq_of_word {first second product other : UInt16}
    (same : Hex.word .upper first ++ ":" ++ Hex.word .upper product =
      Hex.word .upper second ++ ":" ++ Hex.word .upper other) :
    first = second ∧ product = other := by
  have noColon : ∀ value, ':' ∉ (Hex.word .upper value).toList := notMem_word (by decide) .upper
  -- The colon stands between digits, so it is the first one in either text.
  have parts := congrArg String.toList same
  simp only [String.toList_append, List.append_assoc] at parts
  obtain ⟨vendors, products⟩ := parts_eq_of_marked (noColon first) (noColon second) parts
  exact ⟨word_inj.mp (String.toList_inj.mp vendors), word_inj.mp (String.toList_inj.mp products)⟩

/-- A reader is told by its line. -/
theorem reader_eq_of_text {first second : Usb.ReaderInfo} (same : first.text = second.text) :
    first = second := by
  rw [readerText_eq, readerText_eq] at same
  have words := words_eq_of_joined rfl (by simp [readerWords]) (by simp [readerWords])
    (notMem_readerWords first) (notMem_readerWords second) same
  simp only [readerWords, List.cons.injEq, and_true, true_and] at words
  obtain ⟨ids, bus, address, interface⟩ := words
  obtain ⟨sameVendor, sameProduct⟩ := ids_eq_of_word ids
  have sameBus : first.bus = second.bus := octet_eq_of_zeroPadded bus
  have sameAddress : first.address = second.address := octet_eq_of_zeroPadded address
  have sameInterface : first.interface = second.interface := octet_eq_of_repr interface
  cases first
  cases second
  simp only [Usb.ReaderInfo.mk.injEq]
  exact ⟨sameVendor, sameProduct, sameBus, sameAddress, sameInterface⟩

/-- A reader's line is one line. -/
theorem lineBreak_notMem_readerText (info : Usb.ReaderInfo) : '\n' ∉ info.text.toList := by
  have digits : ∀ value, '\n' ∉ (Hex.word .upper value).toList := notMem_word (by decide) .upper
  have padded : ∀ value, '\n' ∉ (zeroPadded 3 value).toList := notMem_zeroPadded (by decide) 3
  have decimal : ∀ value, '\n' ∉ Nat.toDigits 10 value := notMem_toDigits (by decide)
  simp [Usb.ReaderInfo.text, digits, padded, decimal]

/-- The line that stands for an empty list is no reader's. -/
theorem readerText_ne_noReaders (info : Usb.ReaderInfo) : info.text ≠ "No CCID readers found" := by
  intro same
  have four : "No CCID readers found" = " ".intercalate ["No", "CCID", "readers", "found"] := rfl
  have same := (readerText_eq info).symm.trans (same.trans four)
  -- A reader's line has more words than these four.
  have words := words_eq_of_joined rfl (by simp [readerWords]) (by simp)
    (notMem_readerWords info) (by decide) same
  simp [readerWords] at words

/-- The lines of a list of readers; an empty list has a line of its own. -/
def readerLines (readers : List Usb.ReaderInfo) : List String :=
  if readers.isEmpty then ["No CCID readers found"] else readers.map Usb.ReaderInfo.text

/-- A list of readers is its lines, joined by line breaks. -/
theorem readersText_eq (readers : List Usb.ReaderInfo) :
    Usb.readersText readers = "\n".intercalate (readerLines readers) := by
  -- The text is chosen by the same case as the lines.
  cases readers with
  | nil => rfl
  | cons info others => rfl

/-- A list of readers has a line at least. -/
theorem readerLines_ne_nil (readers : List Usb.ReaderInfo) : readerLines readers ≠ [] := by
  cases readers <;> simp [readerLines]

/-- No line of a list of readers has a line break. -/
theorem notMem_readerLines (readers : List Usb.ReaderInfo) :
    ∀ line ∈ readerLines readers, '\n' ∉ line.toList := by
  cases readers with
  | nil => simp [readerLines]
  | cons info others =>
    intro line member
    obtain ⟨reader, _, rfl⟩ := List.mem_map.mp member
    exact lineBreak_notMem_readerText reader

/-- A list of readers is told by its lines. -/
theorem readers_eq_of_lines {first second : List Usb.ReaderInfo}
    (same : readerLines first = readerLines second) : first = second := by
  cases first with
  | nil =>
    cases second with
    | nil => rfl
    | cons info others =>
      exact absurd (List.head_eq_of_cons_eq same).symm (readerText_ne_noReaders info)
  | cons info others =>
    cases second with
    | nil => exact absurd (List.head_eq_of_cons_eq same) (readerText_ne_noReaders info)
    | cons other more =>
      -- Both have a line for each reader, and every line tells its reader.
      have injective : Function.Injective Usb.ReaderInfo.text := fun _ _ => reader_eq_of_text
      exact List.map_injective_iff.mpr injective same

/-- A list of readers is told by its text. -/
theorem readers_eq_of_text {first second : List Usb.ReaderInfo}
    (same : Usb.readersText first = Usb.readersText second) : first = second := by
  rw [readersText_eq, readersText_eq] at same
  exact readers_eq_of_lines (words_eq_of_joined rfl (readerLines_ne_nil first)
    (readerLines_ne_nil second) (notMem_readerLines first) (notMem_readerLines second) same)

/-- The octets of an Answer-To-Reset are told by the first line of its report. -/
theorem octets_eq_of_report {first second : Atr} (same : first.report = second.report) :
    first.octets = second.octets := by
  have noBreak : ∀ octets, '\n' ∉ (Hex.upper octets).toList := notMem_upper (by decide)
  -- No digit is a line break, so the first line ends behind the last octet.
  have characters := congrArg String.toList same
  simp only [Atr.report, String.toList_append, List.append_assoc] at characters
  have digits := List.append_cancel_left characters
  obtain ⟨upper, _⟩ := parts_eq_of_marked (noBreak first.octets) (noBreak second.octets) digits
  exact upper_inj.mp (String.toList_inj.mp upper)

/--
The report texts lose nothing.

A status report tells the kind, the number, both parts of the status, the error and the data of the
response. The text of a list of readers tells the list, and that of an empty list is no other list's.
The report of an Answer-To-Reset tells its octets.
-/
theorem reports_lose_nothing :
    (∀ first second : Response, first.report.text = second.report.text ↔
        first.kind = second.kind ∧ first.sequence = second.sequence ∧
          first.status.icc = second.status.icc ∧ first.status.command = second.status.command ∧
          first.error = second.error ∧ first.data = second.data) ∧
      (∀ first second : List Usb.ReaderInfo,
        Usb.readersText first = Usb.readersText second ↔ first = second) ∧
      (∀ (info : Usb.ReaderInfo) (others : List Usb.ReaderInfo),
        Usb.readersText (info :: others) ≠ Usb.readersText []) ∧
      ∀ first second : Atr, first.report = second.report ↔ first.octets = second.octets := by
  refine ⟨?_, ?_, ?_, ?_⟩
  · intro first second
    constructor
    · intro same
      have reports : first.report = second.report := statusReport_eq_of_text same
      simpa only [Response.report, StatusReport.mk.injEq] using reports
    · intro fields
      have reports : first.report = second.report := by
        simpa only [Response.report, StatusReport.mk.injEq] using fields
      rw [reports]
  · intro first second
    exact ⟨readers_eq_of_text, congrArg _⟩
  · intro info others same
    exact List.cons_ne_nil info others (readers_eq_of_text same)
  · intro first second
    constructor
    · exact octets_eq_of_report
    · intro octets
      have whole : first = second := by
        cases first
        cases second
        exact congrArg Atr.mk octets
      rw [whole]

end Report

end Ccid
