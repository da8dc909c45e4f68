/-
Identity/Unicode/Composition.lean

Characters that stand for two others, one after the other: a letter and a
mark on it, or two parts of a syllable.  The table holds the lower-case half
of the standard's pairs; the syllables of Hangul are numbered, so that they
need no table.
-/

namespace Identity.Unicode

/-! ### Pairs from the table -/

/-- What comes of the character `second` after other ones: each of `firsts`
makes with it the one of `wholes` at the same place. -/
structure Composition where
  second : Nat
  firsts : String
  wholes : String
  deriving Repr, DecidableEq

/-- The pairs of a lower-case text. -/
def compositions : List Composition := [
  ⟨0x300, "aeinouwyâêôüăēōơưαεηιο", "àèìǹòùẁỳầềồǜằḕṑờừὰὲὴὶὸ"⟩,
  ⟨0x300, "υωϊϋеиἀἁἐἑἠἡἰἱὀὁὐὑὠὡ", "ὺὼῒῢѐѝἂἃἒἓἢἣἲἳὂὃὒὓὢὣ"⟩,
  ⟨0x301, "acegiklmnoprsuwyzâåæçê", "áćéǵíḱĺḿńóṕŕśúẃýźấǻǽḉế"⟩,
  ⟨0x301, "ïôõøüăēōũơưαεηιουωϊϋгк", "ḯốṍǿǘắḗṓṹớứάέήίόύώΐΰѓќ"⟩,
  ⟨0x301, "ἀἁἐἑἠἡἰἱὀὁὐὑὠὡ", "ἄἅἔἕἤἥἴἵὄὅὔὕὤὥ"⟩,
  ⟨0x302, "aceghijosuwyzạẹọ", "âĉêĝĥîĵôŝûŵŷẑậệộ"⟩,
  ⟨0x303, "aeinouvyâêôăơư", "ãẽĩñõũṽỹẫễỗẵỡữ"⟩,
  ⟨0x304, "aegiouyäæõöüǫȧȯαιυиуḷṛ", "āēḡīōūȳǟǣȭȫǖǭǡȱᾱῑῡӣӯḹṝ"⟩,
  ⟨0x306, "aegiouȩαιυаежиуạ", "ăĕğĭŏŭḝᾰῐῠӑӗӂйўặ"⟩,
  ⟨0x307, "abcdefghmnoprstwxyzśšṣ", "ȧḃċḋėḟġḣṁṅȯṗṙṡṫẇẋẏżṥṧṩ"⟩,
  ⟨0x307, "𐗒𐗚", "𐗉𐗤"⟩,
  ⟨0x308, "aehiotuwxyõūιυаежзиоуч", "äëḧïöẗüẅẍÿṏṻϊϋӓёӝӟӥӧӱӵ"⟩,
  ⟨0x308, "ыэіәө", "ӹӭїӛӫ"⟩,
  ⟨0x309, "aeiouyâêôăơư", "ảẻỉỏủỷẩểổẳởử"⟩,
  ⟨0x30A, "auwy", "åůẘẙ"⟩,
  ⟨0x30B, "ouу", "őűӳ"⟩,
  ⟨0x30C, "acdeghijklnorstuzüʒ", "ǎčďěǧȟǐǰǩľňǒřšťǔžǚǯ"⟩,
  ⟨0x30F, "aeioruѵ", "ȁȅȉȍȑȕѷ"⟩,
  ⟨0x311, "aeioru", "ȃȇȋȏȓȗ"⟩,
  ⟨0x313, "αεηιορυω", "ἀἐἠἰὀῤὐὠ"⟩,
  ⟨0x314, "αεηιορυω", "ἁἑἡἱὁῥὑὡ"⟩,
  ⟨0x31B, "ou", "ơư"⟩,
  ⟨0x323, "abdehiklmnorstuvwyzơư", "ạḅḍẹḥịḳḷṃṇọṛṣṭụṿẉỵẓợự"⟩,
  ⟨0x324, "u", "ṳ"⟩,
  ⟨0x325, "a", "ḁ"⟩,
  ⟨0x326, "st", "șț"⟩,
  ⟨0x327, "cdeghklnrst", "çḑȩģḩķļņŗşţ"⟩,
  ⟨0x328, "aeiou", "ąęįǫų"⟩,
  ⟨0x32D, "delntu", "ḓḙḽṋṱṷ"⟩,
  ⟨0x32E, "h", "ḫ"⟩,
  ⟨0x330, "eiu", "ḛḭṵ"⟩,
  ⟨0x331, "bdhklnrtz", "ḇḏẖḵḻṉṟṯẕ"⟩,
  ⟨0x338, "<=>←→↔⇐⇒⇔∃∈∋∣∥∼≃≅≈≍≡≤≥", "≮≠≯↚↛↮⇍⇏⇎∄∉∌∤∦≁≄≇≉≭≢≰≱"⟩,
  ⟨0x338, "≲≳≶≷≺≻≼≽⊂⊃⊆⊇⊑⊒⊢⊨⊩⊫⊲⊳⊴⊵", "≴≵≸≹⊀⊁⋠⋡⊄⊅⊈⊉⋢⋣⊬⊭⊮⊯⋪⋫⋬⋭"⟩,
  ⟨0x342, "αηιυωϊϋἀἁἠἡἰἱὐὑὠὡ", "ᾶῆῖῦῶῗῧἆἇἦἧἶἷὖὗὦὧ"⟩,
  ⟨0x653, "ا", "آ"⟩,
  ⟨0x654, "اويہےە", "أؤئۂۓۀ"⟩,
  ⟨0x655, "ا", "إ"⟩,
  ⟨0x93C, "नरळ", "ऩऱऴ"⟩,
  ⟨0x9BE, "\u09c7", "\u09cb"⟩,
  ⟨0x9D7, "\u09c7", "\u09cc"⟩,
  ⟨0xB3E, "\u0b47", "\u0b4b"⟩,
  ⟨0xB56, "\u0b47", "\u0b48"⟩,
  ⟨0xB57, "\u0b47", "\u0b4c"⟩,
  ⟨0xBBE, "\u0bc6\u0bc7", "\u0bca\u0bcb"⟩,
  ⟨0xBD7, "ஒ\u0bc6", "ஔ\u0bcc"⟩,
  ⟨0xC56, "\u0c46", "\u0c48"⟩,
  ⟨0xCC2, "\u0cc6", "\u0cca"⟩,
  ⟨0xCD5, "\u0cbf\u0cc6\u0cca", "\u0cc0\u0cc7\u0ccb"⟩,
  ⟨0xCD6, "\u0cc6", "\u0cc8"⟩,
  ⟨0xD3E, "\u0d46\u0d47", "\u0d4a\u0d4b"⟩,
  ⟨0xD57, "\u0d46", "\u0d4c"⟩,
  ⟨0xDCA, "\u0dd9\u0ddc", "\u0dda\u0ddd"⟩,
  ⟨0xDCF, "\u0dd9", "\u0ddc"⟩,
  ⟨0xDDF, "\u0dd9", "\u0dde"⟩,
  ⟨0x102E, "ဥ", "ဦ"⟩,
  ⟨0x1B35, "ᬅᬇᬉᬋᬍᬑ\u1b3a\u1b3c\u1b3e\u1b3f\u1b42", "ᬆᬈᬊᬌᬎᬒ\u1b3b\u1b3d\u1b40\u1b41\u1b43"⟩,
  ⟨0x3099, "うかきくけこさしすせそたちつてとはひふへほゝ", "ゔがぎぐげござじずぜぞだぢづでどばびぶべぼゞ"⟩,
  ⟨0x3099, "ウカキクケコサシスセソタチツテトハヒフヘホワ", "ヴガギグゲゴザジズゼゾダヂヅデドバビブベボヷ"⟩,
  ⟨0x3099, "ヰヱヲヽ", "ヸヹヺヾ"⟩,
  ⟨0x309A, "はひふへほハヒフヘホ", "ぱぴぷぺぽパピプペポ"⟩,
  ⟨0x110BA, "𑂙𑂛𑂥", "𑂚𑂜𑂫"⟩,
  ⟨0x11127, "𑄱𑄲", "𑄮𑄯"⟩,
  ⟨0x1133E, "𑍇", "𑍋"⟩,
  ⟨0x11357, "𑍇", "𑍌"⟩,
  ⟨0x113B8, "𑏂", "𑏇"⟩,
  ⟨0x113BB, "𑎄", "𑎅"⟩,
  ⟨0x113C2, "𑎎", "𑎎𑏅"⟩,
  ⟨0x113C9, "𑎂𑎐𑏂", "𑎃𑎑𑏈"⟩,
  ⟨0x114B0, "𑒹", "𑒼"⟩,
  ⟨0x114BA, "𑒹", "𑒻"⟩,
  ⟨0x114BD, "𑒹", "𑒾"⟩,
  ⟨0x115AF, "𑖸𑖹", "𑖺𑖻"⟩,
  ⟨0x11930, "𑤵", "𑤸"⟩,
  ⟨0x1611E, "𖄞", "𖄡"⟩,
  ⟨0x1611F, "𖄡𖄡𖄩𖄩", "𖄣𖄦𖄧𖄤"⟩,
  ⟨0x16120, "𖄡𖄞", "𖄥𖄨"⟩,
  ⟨0x16129, "𖄞", "𖄢"⟩,
  ⟨0x16D67, "𖵩𖵩", "𖵪𖵧𖵪"⟩]

/-- The places of two texts side by side. -/
def Composition.rows (t : Composition) : List (Char × Char) := t.firsts.toList.zip t.wholes.toList

/-- The character that the table makes of two. -/
def tabled? (a b : Char) : Option Char :=
  compositions.findSome? fun t =>
    if t.second = b.toNat then (t.rows.find? (·.1 == a)).map (·.2) else none

/-- The two characters that the table makes one character of. -/
def untabled? (c : Char) : Option (Char × Char) :=
  compositions.findSome? fun t =>
    (t.rows.find? (·.2 == c)).map fun row => (row.1, Char.ofNat t.second)

/-! ### Syllables of Hangul -/

namespace Hangul

/-- The first leading consonant. -/
def firstLead : Nat := 0x1100

/-- The first vowel. -/
def firstVowel : Nat := 0x1161

/-- The code point before the first trailing consonant. -/
def noTrail : Nat := 0x11A7

/-- The first syllable. -/
def firstSyllable : Nat := 0xAC00

/-- How many leading consonants there are. -/
def leads : Nat := 19

/-- How many vowels there are. -/
def vowels : Nat := 21

/-- How many trailing consonants there are, and none. -/
def trails : Nat := 28

/-- Place of a code point among `count` from `first` on. -/
def place? (first count n : Nat) : Option Nat :=
  if first ≤ n && n < first + count then some (n - first) else none

/-- The syllable of a leading consonant and a vowel. -/
def openSyllable? (a b : Nat) : Option Nat := do
  let lead ← place? firstLead leads a
  let vowel ← place? firstVowel vowels b
  return firstSyllable + (lead * vowels + vowel) * trails

/-- The syllable of an open one and a trailing consonant. -/
def closedSyllable? (a b : Nat) : Option Nat := do
  let syllable ← place? firstSyllable (leads * vowels * trails) a
  let trail ← place? (noTrail + 1) (trails - 1) b
  if syllable % trails = 0 then some (a + trail + 1) else none

/-- The two characters of a syllable. -/
def parts? (n : Nat) : Option (Nat × Nat) := do
  let syllable ← place? firstSyllable (leads * vowels * trails) n
  let trail := syllable % trails
  if trail = 0 then
    let pair := syllable / trails
    return (firstLead + pair / vowels, firstVowel + pair % vowels)
  else
    return (n - trail, noTrail + trail)

end Hangul

/-! ### Making and taking apart -/

/-- The character that stands for two others. -/
def compose? (a b : Char) : Option Char :=
  ((Hangul.openSyllable? a.toNat b.toNat <|> Hangul.closedSyllable? a.toNat b.toNat).map Char.ofNat) <|>
    tabled? a b

/-- The two characters that a character stands for. -/
def decompose? (c : Char) : Option (Char × Char) :=
  ((Hangul.parts? c.toNat).map fun pair => (Char.ofNat pair.1, Char.ofNat pair.2)) <|>
    untabled? c

end Identity.Unicode
