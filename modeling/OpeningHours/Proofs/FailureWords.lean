import OpeningHours.Feed.Exchange

/-!
# OpeningHours — the words of a failure and its class

The class of a failure is told from its message, by words that may stand anywhere in it. Every
message begins with words of its own kind of failure and goes on with words or digits from outside.
No such word begins in the first part and ends in the second, since its first letter is none of the
first part's, so what the second part says is added to what the first one says.

A failure is classed by its kind exactly if the part from outside adds nothing: the status begins
with the digits of no routine status but its own, and the reason holds no word of another kind. All
statuses of three digits are of this sort. A reason is not always, as it may quote the feed.

* `FeedError.kindClass` — the class that a kind of failure calls for.
* `FeedError.Plain`     — the part from outside says nothing of another kind.

## Results

* `occursIn_append_of_not_mem` — a word whose first letter is not in the text in front.
* `classOf_eq_unknown_iff`     — a message of no known class holds none of the words.
* `classed_by_kind`            — when a failure is classed by its kind.
* `classed_by_quoted_words`    — a feed that is quoted in the failure is classed by its own words.
-/

namespace OpeningHours

-- ---------------------------------------------------------------------------
-- Words in a text
-- ---------------------------------------------------------------------------

namespace Text

/-- A word does not occur across the end of a text that its first letter is not in. -/
theorem occursIn_append_of_not_mem {c : Char} {front : List Char} (h : c ∉ front)
    (needle cs : List Char) : occursIn (c :: needle) (front ++ cs) = occursIn (c :: needle) cs := by
  induction front with
  | nil => rfl
  | cons d front ih =>
    obtain ⟨hd, hfront⟩ := not_or.mp (mt List.mem_cons.mpr h)
    have hstarts : (c :: needle).isPrefixOf (d :: (front ++ cs)) = false := by
      simp [List.isPrefixOf, hd]
    rw [List.cons_append, occursIn, ih hfront, hstarts, Bool.false_or]

/-- What a text begins with occurs in it. -/
theorem occursIn_of_prefix {needle cs : List Char} (h : needle <+: cs) :
    occursIn needle cs = true := by
  cases cs with
  | nil => rw [List.prefix_nil.mp h, occursIn, List.isEmpty_nil]
  | cons c cs => rw [occursIn, List.isPrefixOf_iff_prefix.mpr h, Bool.true_or]

/-- The beginning of a word occurs where the word does. -/
theorem occursIn_of_occursIn_append {needle more cs : List Char}
    (h : occursIn (needle ++ more) cs = true) : occursIn needle cs = true := by
  induction cs with
  | nil =>
    obtain ⟨rfl, -⟩ : needle = [] ∧ more = [] := by simpa [occursIn] using h
    rfl
  | cons c cs ih =>
    rw [occursIn, Bool.or_eq_true] at h ⊢
    refine h.imp ?_ ih
    rw [List.isPrefixOf_iff_prefix, List.isPrefixOf_iff_prefix]
    exact (List.prefix_append needle more).trans

/-- A word that begins like the text occurs in it, if its first letter does not come again, where
the text goes on like the word. -/
theorem occursIn_cons_append_iff {c : Char} {front cs : List Char} (hfront : c ∉ front)
    (hcs : c ∉ cs) (needle : List Char) :
    occursIn (c :: (front ++ needle)) (c :: (front ++ cs)) = true ↔ needle <+: cs := by
  have hbehind : occursIn (c :: (front ++ needle)) (front ++ cs) = false := by
    have hnone := occursIn_append_of_not_mem hcs (front ++ needle) []
    rw [List.append_nil] at hnone
    rw [occursIn_append_of_not_mem hfront, hnone]
    rfl
  rw [occursIn, hbehind, Bool.or_false, List.isPrefixOf_iff_prefix, List.cons_prefix_cons,
    List.prefix_append_right_inj]
  exact and_iff_right rfl

theorem toList_decimal (n : Nat) : (decimal n).toList = Nat.toDigits 10 n :=
  String.toList_ofList

end Text

namespace Feed

open Text

/-- A message that begins with one of the texts mentions it. -/
theorem mentions_of_prefix {message text : String} {texts : List String} (h : text ∈ texts)
    (hstarts : text.toList <+: message.toList) : mentions message texts = true :=
  List.any_eq_true.mpr ⟨text, h, occursIn_of_prefix hstarts⟩

/-- A text in front that holds the first letter of no word does not matter. -/
theorem mentions_append {front : String} {texts : List String}
    (h : ∀ text ∈ texts, ∃ c ∈ text.toList.head?, c ∉ front.toList) (message : String) :
    mentions (front ++ message) texts = mentions message texts := by
  rw [Bool.eq_iff_iff, mentions, mentions, List.any_eq_true, List.any_eq_true]
  refine exists_congr fun text => and_congr_right fun htext => ?_
  obtain ⟨c, hhead, hnot⟩ := h text htext
  obtain ⟨needle, hneedle⟩ := List.head?_eq_some_iff.mp hhead
  rw [hneedle, String.toList_append, occursIn_append_of_not_mem hnot]

/-- A message about a status holds the words for another one if its digits begin with the
other's. -/
theorem occursIn_httpStatus_iff (n code : Nat) :
    occursIn (FeedError.httpStatus n).text.toList (FeedError.httpStatus code).text.toList = true ↔
      Nat.toDigits 10 n <+: Nat.toDigits 10 code := by
  have hwords : ∀ n, (FeedError.httpStatus n).text.toList =
      'H' :: ("TTP error: ".toList ++ Nat.toDigits 10 n) := by
    intro n
    show ("HTTP error: " ++ decimal n).toList = _
    rw [String.toList_append, toList_decimal]
    rfl
  have hdigits : 'H' ∉ Nat.toDigits 10 code := by
    intro h
    exact absurd (Nat.isDigit_of_mem_toDigits (by decide) (by decide) h) (by decide)
  rw [hwords, hwords, occursIn_cons_append_iff (by decide) hdigits]

-- ---------------------------------------------------------------------------
-- The class of each kind
-- ---------------------------------------------------------------------------

/-- The class that a kind of failure calls for. -/
def FeedError.kindClass : FeedError → FailureClass
  | httpStatus code => if code = 429 ∨ code = 503 then .expected else .unexpected
  | requestFailed _ => .unknown
  | notAFeed _ => .unexpected
  | unreadable _ => .unknown

/-- What the failure concerns does not read like another kind of failure. -/
def FeedError.Plain : FeedError → Prop
  | httpStatus code => ∀ n ∈ [429, 503], Nat.toDigits 10 n <+: Nat.toDigits 10 code → code = n
  | requestFailed reason => mentions reason ["HTTP error", "Parse error"] = false
  | notAFeed reason => mentions reason ["HTTP error: 429", "HTTP error: 503"] = false
  | unreadable reason => mentions reason ["HTTP error", "Parse error"] = false

/-- The message about a status reads like one about a routine status if its digits begin so. -/
theorem mentions_httpStatus_iff (code : Nat) :
    mentions (FeedError.httpStatus code).text ["HTTP error: 429", "HTTP error: 503"] = true ↔
      ∃ n ∈ [429, 503], Nat.toDigits 10 n <+: Nat.toDigits 10 code := by
  have hwords : ["HTTP error: 429", "HTTP error: 503"] =
      [429, 503].map fun n => (FeedError.httpStatus n).text := by decide
  rw [hwords, mentions, List.any_map, List.any_eq_true]
  simp only [Function.comp_apply, occursIn_httpStatus_iff]

/-- A status is classed by its digits alone. -/
theorem failureClass_httpStatus (code : Nat) : (FeedError.httpStatus code).failureClass =
    if mentions (FeedError.httpStatus code).text ["HTTP error: 429", "HTTP error: 503"] then
      .expected
    else .unexpected := by
  have hown : mentions (FeedError.httpStatus code).text ["HTTP error", "Parse error"] = true := by
    refine mentions_of_prefix (List.mem_cons_self ..) ?_
    show _ <+: ("HTTP error: " ++ decimal code).toList
    rw [String.toList_append]
    exact List.prefix_append_of_prefix (by decide)
  rw [FeedError.failureClass, classOf, hown, if_pos rfl]

/-- The words for a routine status begin with an `H`. -/
theorem mentions_routine_append {front : String} (h : 'H' ∉ front.toList) (message : String) :
    mentions (front ++ message) ["HTTP error: 429", "HTTP error: 503"] =
      mentions message ["HTTP error: 429", "HTTP error: 503"] :=
  mentions_append (List.forall_mem_cons.mpr ⟨⟨'H', rfl, h⟩,
    List.forall_mem_singleton.mpr ⟨'H', rfl, h⟩⟩) message

/-- Words that begin with none of the looked-for letters have no part in the class. -/
theorem classOf_append {front : String} (h : 'H' ∉ front.toList) (h' : 'P' ∉ front.toList)
    (message : String) : classOf (front ++ message) = classOf message := by
  have hknown : mentions (front ++ message) ["HTTP error", "Parse error"] =
      mentions message ["HTTP error", "Parse error"] :=
    mentions_append (List.forall_mem_cons.mpr ⟨⟨'H', rfl, h⟩,
      List.forall_mem_singleton.mpr ⟨'P', rfl, h'⟩⟩) message
  rw [classOf, classOf, mentions_routine_append h, hknown]

/-- A failed request is classed by its reason. -/
theorem failureClass_requestFailed (reason : String) :
    (FeedError.requestFailed reason).failureClass = classOf reason := by
  show classOf ("Request failed: " ++ reason) = classOf reason
  exact classOf_append (by decide) (by decide) reason

/-- An unreadable feed is classed by its reason. -/
theorem failureClass_unreadable (reason : String) :
    (FeedError.unreadable reason).failureClass = classOf reason := by
  show classOf ("I/O error: " ++ reason) = classOf reason
  exact classOf_append (by decide) (by decide) reason

/-- An answer that is no feed is expected only if its reason says so. -/
theorem failureClass_notAFeed (reason : String) : (FeedError.notAFeed reason).failureClass =
    if mentions reason ["HTTP error: 429", "HTTP error: 503"] then .expected else .unexpected := by
  have hown : mentions ("Parse error: " ++ reason) ["HTTP error", "Parse error"] = true := by
    refine mentions_of_prefix (List.mem_cons_of_mem _ (List.mem_cons_self ..)) ?_
    rw [String.toList_append]
    exact List.prefix_append_of_prefix (by decide)
  show classOf ("Parse error: " ++ reason) = _
  rw [classOf, mentions_routine_append (by decide), hown, if_pos rfl]

/-- A message is of no known class if it holds none of the words. -/
theorem classOf_eq_unknown_iff {message : String} :
    classOf message = .unknown ↔ mentions message ["HTTP error", "Parse error"] = false := by
  -- the words about a routine status begin like those about any status
  have hroutine : mentions message ["HTTP error: 429", "HTTP error: 503"] = true →
      mentions message ["HTTP error", "Parse error"] = true := by
    have hbegin : ∀ text ∈ ["HTTP error: 429", "HTTP error: 503"],
        ∃ more, text.toList = "HTTP error".toList ++ more :=
      List.forall_mem_cons.mpr ⟨⟨": 429".toList, by decide⟩,
        List.forall_mem_singleton.mpr ⟨": 503".toList, by decide⟩⟩
    intro h
    obtain ⟨text, htext, hoccurs⟩ := List.any_eq_true.mp h
    obtain ⟨more, hmore⟩ := hbegin text htext
    rw [hmore] at hoccurs
    exact List.any_eq_true.mpr
      ⟨"HTTP error", List.mem_cons_self .., occursIn_of_occursIn_append hoccurs⟩
  rw [classOf]
  split
  · rename_i h
    simp [hroutine h]
  · split <;> simp_all

/-- A status of three digits reads like no other one. -/
theorem plain_of_lt {code : Nat} (h : code < 1000) : (FeedError.httpStatus code).Plain := by
  intro n hn hstarts
  have hcode : (Nat.toDigits 10 code).length ≤ 3 :=
    (Nat.length_toDigits_le_iff (by decide) (by decide)).mpr h
  have hlength : ∀ n ∈ [429, 503], (Nat.toDigits 10 n).length = 3 := by decide
  have heq := hstarts.eq_of_length_le (by rw [hlength n hn]; exact hcode)
  rw [← Nat.ofDigitChars_ten_toDigits (n := code), ← heq, Nat.ofDigitChars_ten_toDigits]

/-- A status is classed by its kind if it does not read like a routine one. -/
theorem classed_httpStatus_iff (code : Nat) :
    (FeedError.httpStatus code).failureClass = (FeedError.httpStatus code).kindClass ↔
      (FeedError.httpStatus code).Plain := by
  have hroutine : ∀ n ∈ [429, 503], n < 1000 := by decide
  have hkind : (FeedError.httpStatus code).kindClass =
      if code ∈ [429, 503] then .expected else .unexpected := by
    simp [FeedError.kindClass]
  rw [failureClass_httpStatus, hkind]
  by_cases hread : ∃ n ∈ [429, 503], Nat.toDigits 10 n <+: Nat.toDigits 10 code
  · rw [if_pos ((mentions_httpStatus_iff code).mpr hread)]
    constructor
    · intro heq
      by_cases hcode : code ∈ [429, 503]
      · exact plain_of_lt (hroutine code hcode)
      · rw [if_neg hcode] at heq
        cases heq
    · obtain ⟨n, hn, hstarts⟩ := hread
      intro hplain
      rw [if_pos (hplain n hn hstarts ▸ hn)]
  · have hother : code ∉ [429, 503] := fun hn => hread ⟨code, hn, List.prefix_refl _⟩
    rw [if_neg (mt (mentions_httpStatus_iff code).mp hread), if_neg hother]
    exact iff_of_true rfl fun n hn hstarts => absurd ⟨n, hn, hstarts⟩ hread

/-- **Classed by kind.** A failure is classed by its kind exactly if the part of its message that
comes from outside does not read like another kind. A status of three digits never does. -/
theorem classed_by_kind (e : FeedError) :
    (e.failureClass = e.kindClass ↔ e.Plain) ∧
      ∀ code < 1000, e = .httpStatus code → e.Plain := by
  constructor
  · cases e with
    | httpStatus code => exact classed_httpStatus_iff code
    | requestFailed reason => rw [failureClass_requestFailed]; exact classOf_eq_unknown_iff
    | notAFeed reason =>
      rw [failureClass_notAFeed, FeedError.kindClass, FeedError.Plain]
      cases mentions reason ["HTTP error: 429", "HTTP error: 503"] <;> simp
    | unreadable reason => rw [failureClass_unreadable]; exact classOf_eq_unknown_iff
  · rintro code hcode rfl
    exact plain_of_lt hcode

/-- A server under maintenance, and a text that is no JSON text. -/
theorem classed_by_kind_maintenance :
    (FeedError.httpStatus 503).failureClass = .expected ∧
      (FeedError.notAFeed "expected value at line 1 column 1").failureClass = .unexpected := by
  have hbroken : (FeedError.notAFeed "expected value at line 1 column 1").Plain := by
    rw [FeedError.Plain]
    decide
  have hstatus := (classed_by_kind (.httpStatus 503)).2 503 (by decide) rfl
  exact ⟨(classed_by_kind _).1.mpr hstatus, (classed_by_kind _).1.mpr hbroken⟩

/-- The words of a reader that quotes a text which stands in place of features, and names the column
where it ends, and that quotes a text in place of a feature. -/
def quotingWords : Wording where
  flaw
    | .textInstead found, text => "invalid type: string " ++ Text.quoted found ++
        ", expected struct FeatureCollection at line 1 column " ++ Text.decimal text.length
    | _, _ => "expected value at line 1 column 1"
  badFeature
    | .string found => "invalid type: string " ++ Text.quoted found ++ ", expected struct Feature"
    | _ => "invalid type: null, expected struct Feature"

/-- A failure that quotes a status is classed by the status, and one whose status begins like
another by the other. -/
theorem classed_by_quoted_words :
    (∃ reason, parse quotingWords "\"HTTP error: 503\"" = .error (.notAFeed reason) ∧
      (FeedError.notAFeed reason).failureClass = .expected) ∧
    (FeedError.unreadable "HTTP error: 500").failureClass = .unexpected ∧
    (FeedError.httpStatus 4290).failureClass = .expected :=
  ⟨⟨quotingWords.flaw (.textInstead "HTTP error: 503") "\"HTTP error: 503\"", by rfl,
    by decide +kernel⟩, by decide, by decide⟩

end Feed

end OpeningHours
