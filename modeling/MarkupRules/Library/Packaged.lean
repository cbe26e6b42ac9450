import MarkupRules.Library.Basic
import MarkupRules.Registry.Validation

/-!
# The packaged rules

The business rules of the SciELO Publishing Schema, fifteen phases that can each be run on their
own. Relative contexts match anywhere in the document; absolute paths inside a test start at the
document node.

* `Packaged.draft` -- the rules as they are written;
* `Packaged.library`, `Packaged.registry` -- the same, compiled and checked.
-/

namespace MarkupRules.Packaged

/-! ## 1. The journal -/

def journalId : PhaseDraft := ⟨"journal-id", [
  { id := "journal-id.type"
    context := "article/front/journal-meta"
    message := "<\x7b\x7bname\x7d\x7d> must have a journal-id of type nlm-ta or publisher-id"
    test := .any [
      .present "journal-id[@journal-id-type='nlm-ta']",
      .present "journal-id[@journal-id-type='publisher-id']"] }]⟩

def journalTitleGroup : PhaseDraft := ⟨"journal-title-group", [
  { id := "journal-title-group.present"
    context := "article/front/journal-meta"
    message := "<journal-meta> must contain a journal-title-group"
    test := .present "journal-title-group" },
  { id := "journal-title-group.titles"
    context := "article/front/journal-meta/journal-title-group"
    message := "<journal-title-group> must contain journal-title and a publisher " ++
      "abbrev-journal-title"
    test := .all [
      .present "journal-title",
      .present "abbrev-journal-title[@abbrev-type='publisher']"] }]⟩

def publisher : PhaseDraft := ⟨"publisher", [
  { id := "publisher.present"
    context := "article/front/journal-meta"
    message := "<journal-meta> must contain a publisher"
    test := .present "publisher" }]⟩

def issn : PhaseDraft := ⟨"issn", [
  { id := "issn.pub-type"
    context := "article/front/journal-meta"
    message := "<journal-meta> must have an issn of pub-type epub or ppub"
    test := .any [
      .present "issn[@pub-type='epub']",
      .present "issn[@pub-type='ppub']"] }]⟩

/-! ## 2. The article -/

def articleCategories : PhaseDraft := ⟨"article-categories", [
  { id := "article-categories.present"
    context := "article/front/article-meta"
    message := "<article-meta> must contain article-categories"
    test := .present "article-categories" }]⟩

def fpageOrElocationId : PhaseDraft := ⟨"fpage_or_elocation-id", [
  { id := "fpage_or_elocation-id.present"
    context := "article/front/article-meta"
    message := "<article-meta> must contain fpage or elocation-id"
    test := .any [.present "fpage", .present "elocation-id"] }]⟩

def articleId : PhaseDraft := ⟨"article-id", [
  { id := "article-id.doi"
    context := "article/front/article-meta"
    message := "<article-meta> must contain an article-id of pub-id-type doi"
    test := .present "article-id[@pub-id-type='doi']" },
  { id := "article-id.pub-id-type"
    context := "article/front/article-meta/article-id"
    message := "article-id at \x7b\x7bpath\x7d\x7d has an invalid pub-id-type"
    test := .valueIn "@pub-id-type"
      ["art-access-id", "arxiv", "doaj", "doi", "isbn", "pmcid", "pmid", "publisher-id",
        "publisher-manuscript", "sici", "other"]
      true none }]⟩

def subjGroup : PhaseDraft := ⟨"subj-group", [
  { id := "subj-group.heading"
    context := "article/front/article-meta/article-categories"
    message := "<article-categories> must contain exactly one subj-group of type heading"
    test := .count ".//subj-group[@subj-group-type='heading']" (.exactly 1) }]⟩

def pubDate : PhaseDraft := ⟨"pub-date", [
  { id := "pub-date.pub-type"
    context := "article/front/article-meta/pub-date"
    message := "pub-date at \x7b\x7bpath\x7d\x7d needs a pub-type of epub, ppub, epub-ppub or " ++
      "collection"
    test := .valueIn "@pub-type" ["epub", "ppub", "epub-ppub", "collection"] true none }]⟩

/-! ## 3. Languages -/

def abstractLang : PhaseDraft := ⟨"abstract_lang", [
  { id := "abstract_lang.required"
    context := "article/front/article-meta"
    message := "research and review articles must have an abstract"
    test := .when
      (.present
        "/article[@article-type='research-article' or @article-type='review-article']")
      (.present "abstract") },
  { id := "abstract_lang.no-lang"
    context := "article/front/article-meta/abstract"
    message := "<abstract> must not declare xml:lang ('\x7b\x7b@xml:lang\x7d\x7d')"
    test := .absent "@xml:lang" }]⟩

def articleTitleLang : PhaseDraft := ⟨"article-title_lang", [
  { id := "article-title_lang.no-lang"
    context := "article/front/article-meta/title-group/article-title"
    message := "<article-title> must not declare xml:lang ('\x7b\x7b@xml:lang\x7d\x7d')"
    test := .absent "@xml:lang" }]⟩

def kwdGroupLang : PhaseDraft := ⟨"kwd-group_lang", [
  { id := "kwd-group_lang.lang"
    context := "article/front/article-meta/kwd-group"
    message := "<kwd-group> at \x7b\x7bpath\x7d\x7d must declare xml:lang"
    test := .present "@xml:lang" }]⟩

/-! ## 4. Contributors -/

def affContenttypes : PhaseDraft := ⟨"aff_contenttypes", [
  { id := "aff_contenttypes.original"
    context := "aff"
    message :=
      "<aff> at \x7b\x7bpath\x7d\x7d must have exactly one institution of content-type original"
    test := .exactlyOneOf "institution/@content-type" ["original"] none },
  { id := "aff_contenttypes.content-type"
    context := "aff/institution[@content-type]"
    message := "institution content-type '\x7b\x7b@content-type\x7d\x7d' is not allowed"
    test := .valueIn "@content-type" ["original", "orgname", "orgdiv1", "orgdiv2", "orgdiv3"]
      true none }]⟩

def authorNotes : PhaseDraft := ⟨"author-notes", [
  { id := "author-notes.fn-type"
    context := "article/front/article-meta/author-notes/fn"
    message := "fn-type of <fn> at \x7b\x7bpath\x7d\x7d is not allowed"
    test := .valueIn "@fn-type"
      ["author", "con", "conflict", "corresp", "current-aff", "deceased", "edited-by", "equal",
        "on-leave", "participating-researchers", "present-address", "previously-at",
        "study-group-members", "other"]
      true none }]⟩

/-! ## 5. Counts -/

def counts : PhaseDraft := ⟨"counts", [
  { id := "counts.present"
    context := "article/front/article-meta"
    message := "<article-meta> must contain counts"
    test := .present "counts" },
  { id := "counts.children"
    context := "article/front/article-meta/counts"
    message := "<counts> must contain table-count, ref-count, fig-count, equation-count and " ++
      "page-count"
    test := .all [
      .present "table-count", .present "ref-count", .present "fig-count",
      .present "equation-count", .present "page-count"] },
  { id := "counts.table-count"
    context := "article/front/article-meta/counts/table-count"
    message := "table-count declares \x7b\x7b@count\x7d\x7d tables"
    test := .countEquals "@count" "/article/body//table" },
  { id := "counts.ref-count"
    context := "article/front/article-meta/counts/ref-count"
    message := "ref-count declares \x7b\x7b@count\x7d\x7d references"
    test := .countEquals "@count" "/article/back/ref-list/ref" },
  { id := "counts.fig-count"
    context := "article/front/article-meta/counts/fig-count"
    message := "fig-count declares \x7b\x7b@count\x7d\x7d figures"
    test := .countEquals "@count" "/article/body//fig" },
  { id := "counts.equation-count"
    context := "article/front/article-meta/counts/equation-count"
    message := "equation-count declares \x7b\x7b@count\x7d\x7d equations"
    test := .countEquals "@count" "/article/body//disp-formula" },
  { id := "counts.page-count"
    context := "article/front/article-meta/counts/page-count"
    message := "page-count declares \x7b\x7b@count\x7d\x7d pages"
    test := .when
      (.all [.present "../../fpage", .present "../../lpage"])
      (.spanEquals "@count" "../../fpage" "../../lpage") }]⟩

/-! ## 6. The library -/

/-- The phases in their order. -/
def draft : LibraryDraft where
  version := "1"
  phases := [
    journalId, journalTitleGroup, publisher, articleCategories, fpageOrElocationId, issn,
    articleId, subjGroup, abstractLang, articleTitleLang, kwdGroupLang, affContenttypes, counts,
    authorNotes, pubDate]

/-- The rules compiled. -/
def library : Except ConfigError Library :=
  draft.compile

/-- The rules and phases, checked. -/
def registry : Except ConfigError Registry :=
  library.bind Library.toRegistry

end MarkupRules.Packaged

namespace MarkupRules

/-- The report of a packaged phase on a document. -/
def check (doc : Document) (phase : String) : Except ConfigError Report :=
  Packaged.registry.bind fun reg => reg.validate doc phase

end MarkupRules
