/-
The retail listing is read page by page to its end: which URLs are fetched, that
the reading ends, and when no page of the listing is fetched twice.
-/
import Mathlib.Data.List.Nodup
import Mathlib.Data.Nat.Basic
import Mathlib.Order.Basic
import TcoCalculator.Pricing.RetailListing

namespace TcoCalculator.RetailListing

open Fallible

/-! ### URLs of the listing -/

section Urls

variable {library : UrlLibrary} {scope : AzureRegionScope} {service : AzureRetailService}
  {currency : String} {url : library.Url}

/-- The values that a query has under a name. -/
def valuesOf (name : String) (pairs : List (String × String)) : List String :=
  pairs.filterMap fun pair => if pair.1 = name then some pair.2 else none

/-- The offset of a page in the listing: the number of items its URL skips. -/
def skipOf (library : UrlLibrary) (url : library.Url) : Nat :=
  ((valuesOf "$skip" (library.queryPairs url)).head?.bind parseDigits).getD 0

/-- A URL of the listing with the currency, the filter and the version asked for. -/
structure Scoped (library : UrlLibrary) (scope : AzureRegionScope) (currency : String)
    (service : AzureRetailService) (url : library.Url) : Prop where
  listing : isListingUrl library url = true
  currencyCode : valuesOf "currencyCode" (library.queryPairs url) = [currency]
  filter : valuesOf "$filter" (library.queryPairs url) = [azureRetailFilter scope service]
  apiVersion : valuesOf "api-version" (library.queryPairs url) =
    if service = .virtualMachines then [azureVmRetailApiVersion] else []

@[simp] theorem valuesOf_concat_same (name value : String) (pairs : List (String × String)) :
    valuesOf name (pairs ++ [(name, value)]) = valuesOf name pairs ++ [value] := by
  simp [valuesOf]

@[simp] theorem valuesOf_concat_other {name name' : String} (h : name' ≠ name) (value : String)
    (pairs : List (String × String)) :
    valuesOf name (pairs ++ [(name', value)]) = valuesOf name pairs := by
  simp [valuesOf, h]

/-- What the URL library promises for the URL of the first page. -/
structure UrlLibrary.Laws (library : UrlLibrary) : Prop where
  base : ∀ url, library.parse azureRetailBase = some url →
    isListingUrl library url = true ∧ library.queryPairs url = []
  appendPair : ∀ url name value,
    library.queryPairs (library.appendPair url name value) =
      library.queryPairs url ++ [(name, value)]
  rest : ∀ url name value,
    isListingUrl library (library.appendPair url name value) = isListingUrl library url

theorem scoped_azureRetailUrlFor (hlaws : library.Laws)
    (h : azureRetailUrlFor library scope currency service = .ok url) :
    Scoped library scope currency service url ∧
      valuesOf "$skip" (library.queryPairs url) = [] := by
  obtain ⟨_, -, h⟩ := bind_eq_ok.mp h
  obtain ⟨base, hbase, h⟩ := bind_eq_ok.mp h
  obtain ⟨hlisting, hpairs⟩ := hlaws.base base (elim_eq_ok hbase)
  by_cases hservice : service = .virtualMachines
  · simp only [hservice, if_true] at h
    cases h
    refine ⟨⟨?_, ?_, ?_, ?_⟩, ?_⟩ <;>
      simp [hlaws.rest, hlaws.appendPair, hlisting, hpairs, hservice, valuesOf]
  · simp only [hservice, if_false] at h
    cases h
    refine ⟨⟨?_, ?_, ?_, ?_⟩, ?_⟩ <;>
      simp [hlaws.rest, hlaws.appendPair, hlisting, hpairs, hservice, valuesOf]

/-- What the counts say about the pairs gone through. -/
structure Counted (currency expectedFilter : String) (service : AzureRetailService)
    (pairs : List (String × String)) (counts : PairCounts) : Prop where
  currency : valuesOf "currencyCode" pairs = List.replicate counts.currency currency
  filter : valuesOf "$filter" pairs = List.replicate counts.filter expectedFilter
  apiVersion : valuesOf "api-version" pairs =
    List.replicate counts.apiVersion azureVmRetailApiVersion
  skipCount : (valuesOf "$skip" pairs).length = counts.skip
  skips : ∀ text ∈ valuesOf "$skip" pairs, isSkip text = true

theorem Counted.countPair {expectedFilter : String} {pairs : List (String × String)}
    {counts counts' : PairCounts} (h : Counted currency expectedFilter service pairs counts)
    {pair : String × String}
    (hcount : countPair currency expectedFilter service counts pair = .ok counts') :
    Counted currency expectedFilter service (pairs ++ [pair]) counts' := by
  obtain ⟨name, value⟩ := pair
  unfold RetailListing.countPair at hcount
  dsimp only at hcount
  split_ifs at hcount with hcurrency hfilter hversion hskip
  · cases hcount
    obtain ⟨rfl, rfl⟩ := hcurrency
    exact ⟨by simp [h.currency, List.replicate_succ'], by simp [h.filter],
      by simp [h.apiVersion], by simp [h.skipCount], by simpa using h.skips⟩
  · cases hcount
    obtain ⟨rfl, rfl⟩ := hfilter
    exact ⟨by simp [h.currency], by simp [h.filter, List.replicate_succ'],
      by simp [h.apiVersion], by simp [h.skipCount], by simpa using h.skips⟩
  · cases hcount
    obtain ⟨rfl, -, rfl⟩ := hversion
    exact ⟨by simp [h.currency], by simp [h.filter],
      by simp [h.apiVersion, List.replicate_succ'], by simp [h.skipCount], by simpa using h.skips⟩
  · cases hcount
    obtain ⟨rfl, hvalue⟩ := hskip
    refine ⟨by simp [h.currency], by simp [h.filter], by simp [h.apiVersion],
      by simp [h.skipCount], fun text htext => ?_⟩
    rw [valuesOf_concat_same, List.mem_append, List.mem_singleton] at htext
    rcases htext with htext | rfl
    · exact h.skips text htext
    · exact hvalue

theorem counted_queryPairs {expectedFilter : String} {pairs : List (String × String)}
    {counts : PairCounts}
    (h : pairs.foldlM (countPair currency expectedFilter service) ⟨0, 0, 0, 0⟩ = .ok counts) :
    Counted currency expectedFilter service pairs counts :=
  foldlM_rule (Counted currency expectedFilter service) h
    ⟨rfl, rfl, rfl, rfl, fun _ htext => (nomatch htext)⟩
    fun _ _ _ _ _ hdone hcount => hdone.countPair hcount

theorem scoped_continuation {link : String}
    (h : azureRetailContinuationUrlFor library scope currency link service = .ok url) :
    Scoped library scope currency service url ∧
      ∃ text, valuesOf "$skip" (library.queryPairs url) = [text] ∧ isSkip text = true := by
  obtain ⟨_, -, h⟩ := bind_eq_ok.mp h
  obtain ⟨parsed, -, h⟩ := bind_eq_ok.mp h
  obtain ⟨_, hlisting, h⟩ := bind_eq_ok.mp h
  obtain ⟨counts, hcounts, h⟩ := bind_eq_ok.mp h
  obtain ⟨_, hexpected, h⟩ := bind_eq_ok.mp h
  cases h
  have hcounted := counted_queryPairs hcounts
  have hexpected := ensure_eq_ok.mp hexpected
  subst hexpected
  obtain ⟨text, htext⟩ := List.length_eq_one_iff.mp hcounted.skipCount
  refine ⟨⟨ensure_eq_ok.mp hlisting, hcounted.currency, hcounted.filter, ?_⟩, text, htext,
    hcounted.skips text (by simp [htext])⟩
  rw [hcounted.apiVersion]
  by_cases hservice : service = .virtualMachines <;> simp [hservice]

theorem skipOf_of_isSkip {text : String}
    (h : valuesOf "$skip" (library.queryPairs url) = [text]) (hskip : isSkip text = true) :
    azureRetailPageSize ≤ skipOf library url := by
  unfold isSkip at hskip
  rw [Option.any_eq_true] at hskip
  obtain ⟨skip, hparsed, hskip⟩ := hskip
  rw [skipOf, h, List.head?_cons, Option.bind_some, hparsed, Option.getD_some]
  exact (of_decide_eq_true hskip).1

end Urls

/-! ### The run -/

section Run

variable (library : UrlLibrary) (answers : Nat → Except ProviderError HttpPayload)
  (scope : AzureRegionScope) (service : AzureRetailService) (initialUrl : library.Url)

/-- The URL of the listing's n-th page: the link of the page before it. -/
def urlAt : Nat → Option library.Url
  | 0 => some initialUrl
  | n + 1 => (readPage library (answers n) scope service).toOption.bind Prod.snd

/-- The listing leads on to its n-th page: it has one, within the limit, and no
URL up to it is spelt as an earlier one. -/
structure Reached (n : Nat) : Prop where
  room : n < azureRetailMaxPages
  linked : ∀ i ≤ n, (urlAt library answers scope service initialUrl i).isSome = true
  fresh : ∀ j ≤ n, ∀ i < j,
    (urlAt library answers scope service initialUrl i).map library.toText ≠
      (urlAt library answers scope service initialUrl j).map library.toText

/-- The page is the last of the listing. -/
def IsLast (page : HttpPayload) : Prop :=
  ∃ envelope, page.body = some envelope ∧ envelope.nextPageLink = .null

/-- The pages of the listing have been fetched, up to the n-th. -/
structure IsRun (n : Nat) (outcome : Outcome library) : Prop where
  fetched : outcome.fetched.map some =
    (List.range (n + 1)).map (urlAt library answers scope service initialUrl)
  reached : Reached library answers scope service initialUrl n
  stopped : ¬ Reached library answers scope service initialUrl (n + 1)
  pages : ∀ pages, outcome.result = .ok pages →
    pages.map Except.ok = (List.range (n + 1)).map answers ∧
      ∃ page, pages.getLast? = some page ∧ IsLast page

/-- What the loop keeps: the pages up to the n-th have been read. -/
structure Reading (n : Nat) (listing : Listing library) : Prop where
  pages : listing.pages.map Except.ok = (List.range (n + 1)).map answers
  fetched : listing.fetched.map some =
    (List.range (n + 1)).map (urlAt library answers scope service initialUrl)
  reached : Reached library answers scope service initialUrl n
  seen : ∀ text, text ∈ listing.seenUrls ↔
    ∃ i ≤ n, (urlAt library answers scope service initialUrl i).map library.toText = some text
  next : ∃ page, listing.pages.getLast? = some page ∧
    readPage library (answers n) scope service = .ok (page, listing.nextUrl)

variable {library answers scope service initialUrl}

theorem Reached.of_le {m n : Nat} (h : Reached library answers scope service initialUrl n)
    (hle : m ≤ n) : Reached library answers scope service initialUrl m :=
  ⟨hle.trans_lt h.room, fun i hi => h.linked i (hi.trans hle),
    fun j hj => h.fresh j (hj.trans hle)⟩

theorem urlAt_succ {n : Nat} {page : HttpPayload} {nextUrl : Option library.Url}
    (h : readPage library (answers n) scope service = .ok (page, nextUrl)) :
    urlAt library answers scope service initialUrl (n + 1) = nextUrl := by
  rw [urlAt, h]
  rfl

theorem urlAt_succ_error {n : Nat} {e : ProviderError}
    (h : readPage library (answers n) scope service = .error e) :
    urlAt library answers scope service initialUrl (n + 1) = none := by
  rw [urlAt, h]
  rfl

theorem not_reached_of_none {n : Nat}
    (h : urlAt library answers scope service initialUrl n = none) :
    ¬ Reached library answers scope service initialUrl n := by
  intro hreached
  have hlinked := hreached.linked n le_rfl
  rw [h] at hlinked
  exact Bool.false_ne_true hlinked

theorem answer_of_readPage {answer : Except ProviderError HttpPayload} {page : HttpPayload}
    {nextUrl : Option library.Url}
    (h : readPage library answer scope service = .ok (page, nextUrl)) : answer = .ok page := by
  obtain ⟨fetched, hanswer, h⟩ := bind_eq_ok.mp h
  obtain ⟨_, -, h⟩ := bind_eq_ok.mp h
  cases h
  exact hanswer

/-- A page without a URL to lead on to carries no link. -/
theorem isLast_of_readPage {answer : Except ProviderError HttpPayload} {page : HttpPayload}
    (h : readPage library answer scope service = .ok (page, none)) : IsLast page := by
  obtain ⟨fetched, -, h⟩ := bind_eq_ok.mp h
  obtain ⟨nextUrl, hproject, h⟩ := bind_eq_ok.mp h
  cases h
  obtain ⟨envelope, henvelope, hproject⟩ := bind_eq_ok.mp hproject
  obtain ⟨_, -, hproject⟩ := bind_eq_ok.mp hproject
  refine ⟨envelope, elim_eq_ok henvelope, ?_⟩
  cases hlink : envelope.nextPageLink with
  | null => rfl
  | other =>
      simp only [hlink] at hproject
      cases hproject
  | text link =>
      simp only [hlink] at hproject
      split_ifs at hproject
      cases hcontinuation :
        (azureRetailContinuationUrlFor library scope "USD" link service).toOption <;>
        simp [hcontinuation] at hproject

theorem Reading.length {n : Nat} {listing : Listing library}
    (h : Reading library answers scope service initialUrl n listing) :
    listing.fetched.length = n + 1 ∧ listing.pages.length = n + 1 := by
  have hfetched := congrArg List.length h.fetched
  have hpages := congrArg List.length h.pages
  simpa using And.intro hfetched hpages

section Next

variable {n : Nat} {listing : Listing library} {url : library.Url}

theorem Reading.reached_succ (h : Reading library answers scope service initialUrl n listing)
    (hnext : urlAt library answers scope service initialUrl (n + 1) = some url)
    (hroom : n + 1 < azureRetailMaxPages) (hnew : library.toText url ∉ listing.seenUrls) :
    Reached library answers scope service initialUrl (n + 1) := by
  refine ⟨hroom, fun i hi => ?_, fun j hj i hi => ?_⟩
  · rcases Nat.le_succ_iff.mp hi with hi | rfl
    · exact h.reached.linked i hi
    · rw [hnext, Option.isSome_some]
  · rcases Nat.le_succ_iff.mp hj with hj | rfl
    · exact h.reached.fresh j hj i hi
    · intro hsame
      rw [hnext, Option.map_some] at hsame
      exact hnew ((h.seen _).mpr ⟨i, Nat.lt_succ_iff.mp hi, hsame⟩)

theorem Reading.fetched_succ (h : Reading library answers scope service initialUrl n listing)
    (hnext : urlAt library answers scope service initialUrl (n + 1) = some url) :
    (listing.fetched ++ [url]).map some =
      (List.range (n + 1 + 1)).map (urlAt library answers scope service initialUrl) := by
  rw [List.map_append, h.fetched, List.range_succ (n := n + 1), List.map_append,
    List.map_singleton, List.map_singleton, hnext]

theorem Reading.seen_succ (h : Reading library answers scope service initialUrl n listing)
    (hnext : urlAt library answers scope service initialUrl (n + 1) = some url) (text : String) :
    text ∈ library.toText url :: listing.seenUrls ↔ ∃ i ≤ n + 1,
      (urlAt library answers scope service initialUrl i).map library.toText = some text := by
  rw [List.mem_cons, h.seen]
  constructor
  · rintro (rfl | ⟨i, hi, hsame⟩)
    · exact ⟨n + 1, le_rfl, by rw [hnext, Option.map_some]⟩
    · exact ⟨i, Nat.le_succ_of_le hi, hsame⟩
  · rintro ⟨i, hi, hsame⟩
    rcases Nat.le_succ_iff.mp hi with hi | rfl
    · exact .inr ⟨i, hi, hsame⟩
    · rw [hnext, Option.map_some] at hsame
      exact .inl (Option.some.inj hsame).symm

/-- One round: the page that the next URL leads to is read. -/
theorem Reading.step (h : Reading library answers scope service initialUrl n listing)
    (hnext : urlAt library answers scope service initialUrl (n + 1) = some url)
    (hreached : Reached library answers scope service initialUrl (n + 1)) {page : HttpPayload}
    {nextUrl : Option library.Url}
    (hread : readPage library (answers (n + 1)) scope service = .ok (page, nextUrl)) :
    Reading library answers scope service initialUrl (n + 1) {
      pages := listing.pages ++ [page]
      nextUrl := nextUrl
      seenUrls := library.toText url :: listing.seenUrls
      fetched := listing.fetched ++ [url] } := by
  refine ⟨?_, h.fetched_succ hnext, hreached, h.seen_succ hnext, page, by simp, hread⟩
  rw [List.map_append, h.pages, List.range_succ (n := n + 1), List.map_append,
    List.map_singleton, List.map_singleton, answer_of_readPage hread]

/-- A URL that the loop does not follow is none of the listing's pages. -/
theorem Reading.stopped (h : Reading library answers scope service initialUrl n listing)
    (hnext : urlAt library answers scope service initialUrl (n + 1) = some url)
    (hguard : azureRetailMaxPages ≤ listing.pages.length ∨
      library.toText url ∈ listing.seenUrls) :
    ¬ Reached library answers scope service initialUrl (n + 1) := by
  intro hreached
  rcases hguard with hfull | hseen
  · rw [h.length.2] at hfull
    exact absurd hreached.room (not_lt.mpr hfull)
  · obtain ⟨i, hi, hsame⟩ := (h.seen _).mp hseen
    refine hreached.fresh (n + 1) le_rfl i (Nat.lt_succ_of_le hi) ?_
    rw [hsame, hnext, Option.map_some]

end Next

/-- The loop ends where the listing leads no further. -/
theorem isRun_of_readOn {n rounds : Nat} {listing : Listing library}
    (h : Reading library answers scope service initialUrl n listing)
    (hrounds : azureRetailMaxPages ≤ n + rounds) :
    ∃ outcome, readOn library answers scope service rounds listing = some outcome ∧
      ∃ m, IsRun library answers scope service initialUrl m outcome := by
  induction rounds generalizing n listing with
  | zero => exact absurd h.reached.room (not_lt.mpr hrounds)
  | succ rounds ih =>
      obtain ⟨hfetched, hpages⟩ := h.length
      obtain ⟨page, hlast, hread⟩ := h.next
      have hnext : urlAt library answers scope service initialUrl (n + 1) = listing.nextUrl :=
        urlAt_succ hread
      rw [readOn]
      cases hurl : listing.nextUrl with
      | none =>
          rw [hurl] at hnext hread
          refine ⟨_, rfl, n, h.fetched, h.reached, not_reached_of_none hnext, ?_⟩
          rintro pages ⟨⟩
          exact ⟨h.pages, page, hlast, isLast_of_readPage hread⟩
      | some url =>
          rw [hurl] at hnext
          by_cases hguard : azureRetailMaxPages ≤ listing.pages.length ∨
              library.toText url ∈ listing.seenUrls
          · simp only [if_pos hguard]
            exact ⟨_, rfl, n, h.fetched, h.reached, h.stopped hnext hguard,
              fun _ hok => nomatch hok⟩
          · simp only [if_neg hguard]
            rw [not_or, hpages, not_le] at hguard
            have hreached := h.reached_succ hnext hguard.1 hguard.2
            cases hanswer : readPage library (answers (n + 1)) scope service with
            | error e =>
                simp only [hfetched, hanswer]
                exact ⟨_, rfl, n + 1, h.fetched_succ hnext, hreached,
                  not_reached_of_none (urlAt_succ_error hanswer), fun _ hok => nomatch hok⟩
            | ok read =>
                simp only [hfetched, hanswer]
                exact ih (h.step hnext hreached hanswer) (by omega)

/-- More rounds than the loop needs change nothing. -/
theorem readOn_succ {rounds : Nat} {listing : Listing library} {outcome : Outcome library}
    (h : readOn library answers scope service rounds listing = some outcome) :
    readOn library answers scope service (rounds + 1) listing = some outcome := by
  induction rounds generalizing listing with
  | zero => cases h
  | succ rounds ih =>
      rw [readOn] at h ⊢
      cases hurl : listing.nextUrl with
      | none => simpa only [hurl] using h
      | some url =>
          simp only [hurl] at h ⊢
          by_cases hguard : azureRetailMaxPages ≤ listing.pages.length ∨
              library.toText url ∈ listing.seenUrls
          · simpa only [if_pos hguard] using h
          · simp only [if_neg hguard] at h ⊢
            cases hanswer :
                readPage library (answers listing.fetched.length) scope service with
            | error e => simpa only [hanswer] using h
            | ok read =>
                simp only [hanswer] at h ⊢
                exact ih h

theorem readOn_of_le {rounds rounds' : Nat} {listing : Listing library}
    {outcome : Outcome library} (hle : rounds ≤ rounds')
    (h : readOn library answers scope service rounds listing = some outcome) :
    readOn library answers scope service rounds' listing = some outcome := by
  induction hle with
  | refl => exact h
  | step _ ih => exact readOn_succ ih

variable (library answers scope service initialUrl) in
/-- The listing is read to an end, within the limit of pages. -/
theorem exists_isRun :
    ∃ outcome, (∀ rounds, azureRetailMaxPages ≤ rounds →
        loadAzureRetailPages library answers initialUrl scope service rounds = some outcome) ∧
      ∃ n, IsRun library answers scope service initialUrl n outcome := by
  have hfirst : Reached library answers scope service initialUrl 0 :=
    ⟨by decide, fun i hi => by rw [Nat.le_zero.mp hi]; rfl, fun j hj i hi => by omega⟩
  cases hread : readPage library (answers 0) scope service with
  | error e =>
      refine ⟨⟨[initialUrl], .error e⟩, fun rounds _ => ?_, 0, rfl, hfirst,
        not_reached_of_none (urlAt_succ_error hread), fun _ hok => nomatch hok⟩
      rw [loadAzureRetailPages, hread]
  | ok read =>
      obtain ⟨page, nextUrl⟩ := read
      have hreading : Reading library answers scope service initialUrl 0 {
          pages := [page]
          nextUrl := nextUrl
          seenUrls := [library.toText initialUrl]
          fetched := [initialUrl] } := by
        refine ⟨?_, rfl, hfirst, fun text => ?_, page, rfl, hread⟩
        · rw [List.range_one, List.map_singleton, List.map_singleton,
            answer_of_readPage hread]
        · simp [urlAt, eq_comm]
      obtain ⟨outcome, hrun, hspec⟩ :=
        isRun_of_readOn hreading (Nat.le_add_left azureRetailMaxPages 0)
      refine ⟨outcome, fun rounds hrounds => ?_, hspec⟩
      rw [loadAzureRetailPages, hread]
      exact readOn_of_le hrounds hrun

end Run

/-! ### Once -/

section Once

variable {library : UrlLibrary} {answers : Nat → Except ProviderError HttpPayload}
  {scope : AzureRegionScope} {service : AzureRetailService} {initialUrl : library.Url}
  {n : Nat} {url : library.Url} {outcome : Outcome library}

/-- What the listing's reading keeps to, whatever the provider answers. -/
structure ReadInOrder (library : UrlLibrary) (answers : Nat → Except ProviderError HttpPayload)
    (scope : AzureRegionScope) (service : AzureRetailService) (outcome : Outcome library) :
    Prop where
  bounded : outcome.fetched.length ≤ azureRetailMaxPages
  inScope : ∀ url ∈ outcome.fetched, Scoped library scope "USD" service url
  complete : ∀ pages, outcome.result = .ok pages →
    pages.map Except.ok = (List.range outcome.fetched.length).map answers ∧
      ∃ page, pages.getLast? = some page ∧ IsLast page

/-- As far as the listing leads, its URLs spell an offset in one way only. -/
def OneSpelling (library : UrlLibrary) (answers : Nat → Except ProviderError HttpPayload)
    (scope : AzureRegionScope) (service : AzureRetailService) (initialUrl : library.Url) : Prop :=
  ∀ n, Reached library answers scope service initialUrl n → ∀ i ≤ n, ∀ url url',
    urlAt library answers scope service initialUrl i = some url →
    urlAt library answers scope service initialUrl n = some url' →
    skipOf library url = skipOf library url' → library.toText url = library.toText url'

/-- A later page of the listing has the URL of a link that was accepted. -/
theorem exists_link_of_urlAt
    (h : urlAt library answers scope service initialUrl (n + 1) = some url) :
    ∃ link, azureRetailContinuationUrlFor library scope "USD" link service = .ok url := by
  rw [urlAt, Option.bind_eq_some_iff] at h
  obtain ⟨⟨page, nextUrl⟩, hread, hnext⟩ := h
  have hread : readPage library (answers n) scope service = .ok (page, nextUrl) := by
    cases hresult : readPage library (answers n) scope service with
    | error e =>
        rw [hresult] at hread
        cases hread
    | ok read =>
        rw [hresult] at hread
        exact congrArg _ (Option.some.inj hread)
  obtain ⟨fetched, -, hread⟩ := bind_eq_ok.mp hread
  obtain ⟨next, hproject, hread⟩ := bind_eq_ok.mp hread
  cases hread
  obtain ⟨envelope, -, hproject⟩ := bind_eq_ok.mp hproject
  obtain ⟨_, -, hproject⟩ := bind_eq_ok.mp hproject
  have hnext : nextUrl = some url := hnext
  subst hnext
  cases hlink : envelope.nextPageLink with
  | null =>
      simp only [hlink] at hproject
      cases hproject
  | other =>
      simp only [hlink] at hproject
      cases hproject
  | text link =>
      simp only [hlink] at hproject
      split_ifs at hproject
      refine ⟨link, ?_⟩
      cases hcontinuation : azureRetailContinuationUrlFor library scope "USD" link service with
      | error e =>
          rw [hcontinuation] at hproject
          cases hproject
      | ok found =>
          rw [hcontinuation] at hproject
          cases hproject
          rfl

theorem skipOf_succ_pos (h : urlAt library answers scope service initialUrl (n + 1) = some url) :
    0 < skipOf library url := by
  obtain ⟨link, hlink⟩ := exists_link_of_urlAt h
  obtain ⟨-, text, htext, hskip⟩ := scoped_continuation hlink
  exact lt_of_lt_of_le (by decide) (skipOf_of_isSkip htext hskip)

theorem scoped_of_urlAt (hlaws : library.Laws)
    (hinitial : azureRetailUrlFor library scope "USD" service = .ok initialUrl)
    (h : urlAt library answers scope service initialUrl n = some url) :
    Scoped library scope "USD" service url := by
  cases n with
  | zero =>
      cases h
      exact (scoped_azureRetailUrlFor hlaws hinitial).1
  | succ n =>
      obtain ⟨link, hlink⟩ := exists_link_of_urlAt h
      exact (scoped_continuation hlink).1

theorem IsRun.length (h : IsRun library answers scope service initialUrl n outcome) :
    outcome.fetched.length = n + 1 := by
  simpa using congrArg List.length h.fetched

theorem IsRun.urlAt (h : IsRun library answers scope service initialUrl n outcome) {i : Nat}
    (hi : i < outcome.fetched.length) :
    urlAt library answers scope service initialUrl i = some outcome.fetched[i] := by
  have hsame := congrArg (fun urls => urls[i]?) h.fetched
  simp only [List.getElem?_map, List.getElem?_eq_getElem hi, Option.map_some] at hsame
  rw [List.getElem?_range (h.length ▸ hi), Option.map_some] at hsame
  exact (Option.some.inj hsame).symm

theorem IsRun.reached_iff (h : IsRun library answers scope service initialUrl n outcome)
    {m : Nat} : Reached library answers scope service initialUrl m ↔ m ≤ n := by
  constructor
  · intro hreached
    by_contra hlt
    exact h.stopped (hreached.of_le (Nat.lt_of_not_le hlt))
  · exact h.reached.of_le

theorem IsRun.readInOrder (h : IsRun library answers scope service initialUrl n outcome)
    (hlaws : library.Laws)
    (hinitial : azureRetailUrlFor library scope "USD" service = .ok initialUrl) :
    ReadInOrder library answers scope service outcome := by
  refine ⟨?_, fun url hmem => ?_, fun pages hpages => ?_⟩
  · rw [h.length]
    exact h.reached.room
  · obtain ⟨i, hi, rfl⟩ := List.mem_iff_getElem.mp hmem
    exact scoped_of_urlAt hlaws hinitial (h.urlAt hi)
  · rw [h.length]
    exact h.pages pages hpages

/-- No offset is fetched twice exactly where each has one spelling. -/
theorem IsRun.nodup_iff (h : IsRun library answers scope service initialUrl n outcome) :
    (outcome.fetched.map (skipOf library)).Nodup ↔
      OneSpelling library answers scope service initialUrl := by
  have hlength := h.length
  rw [List.Nodup, List.pairwise_map, List.pairwise_iff_getElem]
  constructor
  · intro hdistinct m hreached i hi url url' hurl hurl' hskip
    have hm := h.reached_iff.mp hreached
    rcases Nat.lt_or_eq_of_le hi with hlt | rfl
    · rw [h.urlAt (by omega)] at hurl hurl'
      rw [← Option.some.inj hurl, ← Option.some.inj hurl'] at hskip
      exact absurd hskip (hdistinct i m (by omega) (by omega) hlt)
    · rw [hurl] at hurl'
      exact congrArg _ (Option.some.inj hurl')
  · intro hspelling i j hi hj hlt hskip
    have hreached := h.reached_iff.mpr (show j ≤ n by omega)
    have htext := hspelling j hreached i hlt.le _ _ (h.urlAt hi) (h.urlAt hj) hskip
    refine hreached.fresh j le_rfl i hlt ?_
    rw [h.urlAt hi, h.urlAt hj, Option.map_some, Option.map_some, htext]

end Once

/-! ### One offset in two spellings -/

/-- A URL of the listing's host: its query decoded, and its text. -/
structure PlainUrl where
  pairs : List (String × String)
  text : String
  deriving DecidableEq

/-- A name or a value of a query, decoded. -/
def decodeQuery : List Char → List Char
  | '+' :: rest => ' ' :: decodeQuery rest
  | '%' :: '2' :: '0' :: rest => ' ' :: decodeQuery rest
  | '%' :: '2' :: '4' :: rest => '$' :: decodeQuery rest
  | '%' :: '2' :: '7' :: rest => '\'' :: decodeQuery rest
  | c :: rest => c :: decodeQuery rest
  | [] => []

/-- A name or a value as a query is written. -/
def encodeQuery (text : String) : String :=
  String.ofList (text.toList.flatMap fun c =>
    if c = ' ' then ['+'] else if c = '$' then ['%', '2', '4']
    else if c = '\'' then ['%', '2', '7'] else [c])

def decodePair (part : List Char) : String × String :=
  (String.ofList (decodeQuery (part.takeWhile (· ≠ '='))),
    String.ofList (decodeQuery ((part.dropWhile (· ≠ '=')).drop 1)))

/-- The address of the listing, with a query or without. -/
def PlainUrl.parse (text : String) : Option PlainUrl :=
  match text.toList.drop azureRetailBase.toList.length with
  | [] => if text = azureRetailBase then some ⟨[], text⟩ else none
  | '?' :: query =>
      if azureRetailBase.toList.isPrefixOf text.toList then
        some ⟨(query.splitOn '&').map decodePair, text⟩
      else none
  | _ => none

/-- URLs of the listing's host, with the characters that its links have. -/
def plainUrls : UrlLibrary where
  Url := PlainUrl
  parse := PlainUrl.parse
  scheme _ := "https"
  hostStr _ := some "prices.azure.com"
  username _ := ""
  password _ := none
  port _ := none
  path _ := "/api/retail/prices"
  fragment _ := none
  queryPairs := PlainUrl.pairs
  appendPair url name value := {
    pairs := url.pairs ++ [(name, value)]
    text := url.text ++ (if url.pairs = [] then "?" else "&") ++ encodeQuery name ++ "=" ++
      encodeQuery value }
  toText := PlainUrl.text

theorem parse_azureRetailBase :
    PlainUrl.parse azureRetailBase = some ⟨[], azureRetailBase⟩ := by
  decide +kernel

theorem plainUrls_laws : plainUrls.Laws := by
  refine ⟨fun url h => ?_, fun _ _ _ => rfl, fun _ _ _ => rfl⟩
  cases parse_azureRetailBase.symm.trans h
  exact ⟨rfl, rfl⟩

def swedenCentral : AzureRegionScope :=
  ⟨"swedencentral", "sweden-central", "Sweden Central"⟩

/-- The first URL of the SQL Managed Instance listing. -/
def listingUrl : PlainUrl where
  pairs := [("currencyCode", "USD"), ("$filter",
    "serviceName eq 'SQL Managed Instance' and armRegionName eq 'swedencentral'")]
  text := "https://prices.azure.com/api/retail/prices?currencyCode=USD" ++
    "&%24filter=serviceName+eq+%27SQL+Managed+Instance%27+and+armRegionName+eq+%27swedencentral%27"

theorem listingUrl_eq :
    azureRetailUrlFor plainUrls swedenCentral "USD" .sqlManagedInstance = .ok listingUrl := by
  have happended : plainUrls.appendPair (plainUrls.appendPair ⟨[], azureRetailBase⟩
      "currencyCode" "USD") "$filter" (azureRetailFilter swedenCentral .sqlManagedInstance) =
        listingUrl := by
    change PlainUrl.mk _ _ = PlainUrl.mk _ _
    decide +kernel
  rw [azureRetailUrlFor, ensure_of rfl, ok_bind,
    show plainUrls.parse azureRetailBase = _ from parse_azureRetailBase]
  exact congrArg Except.ok happended

/-- The link to the page after the first, with the name of the offset in this spelling. -/
def linkSpelt (skip : String) : String :=
  "https://prices.azure.com/api/retail/prices?currencyCode=USD&" ++
    "$filter=serviceName%20eq%20%27SQL%20Managed%20Instance%27%20and%20" ++
    "armRegionName%20eq%20%27swedencentral%27&" ++ skip ++ "=1000"

def pageWith (link : NextPageLink) : HttpPayload :=
  ⟨"https://prices.azure.com/api/retail/prices", none, none, some ⟨"USD", 1, link, 1⟩⟩

/-- A provider whose second page links to itself in another spelling. -/
def respelling : Nat → Except ProviderError HttpPayload
  | 0 => .ok (pageWith (.text (linkSpelt "$skip")))
  | 1 => .ok (pageWith (.text (linkSpelt "%24skip")))
  | 2 => .ok (pageWith .null)
  | _ => .error .temporarilyUnavailable

end TcoCalculator.RetailListing
