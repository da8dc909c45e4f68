/-
Identity/Host/Image/Letters.lean

Images of the letters and digits in other shapes than the plain one: raised,
lowered, circled, bold, wide and so on, and of pairs written as one character.
Plain capitals are not among them; they have their small letters as images.
-/
import Identity.Host.Image.Basic

namespace Identity.Host

/-- Alphabets and digits, and in how many shapes they stand one after another. -/
def shapedLetters : List (Nat × Images) := [
  (26, ⟨0x1D400, "a b c d e f g h i j k l m n o p q r s t u v w x y z"⟩),
  (5, ⟨0x1D7CE, "0 1 2 3 4 5 6 7 8 9"⟩),
  (2, ⟨0x24B6, "a b c d e f g h i j k l m n o p q r s t u v w x y z"⟩),
  (1, ⟨0x1F130, "a b c d e f g h i j k l m n o p q r s t u v w x y z"⟩),
  (1, ⟨0x1CCD6, "a b c d e f g h i j k l m n o p q r s t u v w x y z"⟩),
  (1, ⟨0x1CCF0, "0 1 2 3 4 5 6 7 8 9"⟩),
  (1, ⟨0x1FBF0, "0 1 2 3 4 5 6 7 8 9"⟩),
  (5, ⟨0x1D6A8, "α β γ δ ε ζ η θ ι κ λ μ ν ξ ο π ρ θ σ τ υ φ χ ψ ω ∇ " ++
    "α β γ δ ε ζ η θ ι κ λ μ ν ξ ο π ρ σ σ τ υ φ χ ψ ω ∂ ε θ κ φ ρ π"⟩),
  (1, ⟨0xFF10, "0 1 2 3 4 5 6 7 8 9"⟩),
  (1, ⟨0x2080, "0 1 2 3 4 5 6 7 8 9"⟩),
  (1, ⟨0xFF21, "a b c d e f g h i j k l m n o p q r s t u v w x y z"⟩),
  (1, ⟨0xFF41, "a b c d e f g h i j k l m n o p q r s t u v w x y z"⟩)]

/-- Characters of their own. -/
def otherLetters : List Images := [
  ⟨0xAA, "a"⟩,
  ⟨0xB2, "2 3 ? μ"⟩,
  ⟨0xB9, "1 o » 1⁄4 1⁄2 3⁄4"⟩,
  ⟨0x130, "i̇ ı ij ij"⟩,
  ⟨0x13F, "l· l·"⟩,
  ⟨0x149, "ʼn"⟩,
  ⟨0x17F, "s"⟩,
  ⟨0x1C4, "dž dž dž lj lj lj nj nj nj"⟩,
  ⟨0x1F1, "dz dz dz"⟩,
  ⟨0x2B0, "h ɦ j r ɹ ɻ ʁ w y"⟩,
  ⟨0x2E0, "ɣ l s x ʕ"⟩,
  ⟨0x340, "\u0300 \u0301 \u0342 \u0313 \u0308́ ι"⟩,
  ⟨0x374, "ʹ"⟩,
  ⟨0x37E, ";"⟩,
  ⟨0x387, "·"⟩,
  ⟨0x3D0, "β θ υ ύ ϋ φ π"⟩,
  ⟨0x3F0, "κ ρ σ ϳ θ ε"⟩,
  ⟨0x3F9, "σ"⟩,
  ⟨0x530, "ՠ"⟩,
  ⟨0x558, "ֈ"⟩,
  ⟨0x587, "եւ"⟩,
  ⟨0x958, "क़ ख़ ग़ ज़ ड़ ढ़ फ़ य़"⟩,
  ⟨0x9DC, "ড় ঢ় ? য়"⟩,
  ⟨0xA33, "ਲ਼ ? ਵ ਸ਼"⟩,
  ⟨0xA59, "ਖ਼ ਗ਼ ਜ਼ ੜ ? ਫ਼"⟩,
  ⟨0xB5C, "ଡ଼ ଢ଼"⟩,
  ⟨0xE33, "\u0e4dา"⟩,
  ⟨0xEB3, "\u0ecdາ"⟩,
  ⟨0xEDC, "ຫນ ຫມ"⟩,
  ⟨0xF0C, "་"⟩,
  ⟨0xF43, "གྷ"⟩,
  ⟨0xF4D, "ཌྷ"⟩,
  ⟨0xF52, "དྷ"⟩,
  ⟨0xF57, "བྷ"⟩,
  ⟨0xF5C, "ཛྷ"⟩,
  ⟨0xF69, "ཀྵ"⟩,
  ⟨0xF73, "\u0f71ི \u0f74 \u0f71ུ \u0fb2ྀ \u0fb2ཱྀ \u0fb3ྀ \u0fb3ཱྀ"⟩,
  ⟨0xF81, "\u0f71ྀ"⟩,
  ⟨0xF93, "\u0f92ྷ"⟩,
  ⟨0xF9D, "\u0f9cྷ"⟩,
  ⟨0xFA2, "\u0fa1ྷ"⟩,
  ⟨0xFA7, "\u0fa6ྷ"⟩,
  ⟨0xFAC, "\u0fabྷ"⟩,
  ⟨0xFB9, "\u0f90ྵ"⟩,
  ⟨0x10FC, "ნ"⟩,
  ⟨0x13A0, "Ꭰ Ꭱ Ꭲ Ꭳ Ꭴ Ꭵ Ꭶ Ꭷ Ꭸ Ꭹ Ꭺ Ꭻ Ꭼ Ꭽ Ꭾ Ꭿ"⟩,
  ⟨0x13B0, "Ꮀ Ꮁ Ꮂ Ꮃ Ꮄ Ꮅ Ꮆ Ꮇ Ꮈ Ꮉ Ꮊ Ꮋ Ꮌ Ꮍ Ꮎ Ꮏ"⟩,
  ⟨0x13C0, "Ꮐ Ꮑ Ꮒ Ꮓ Ꮔ Ꮕ Ꮖ Ꮗ Ꮘ Ꮙ Ꮚ Ꮛ Ꮜ Ꮝ Ꮞ Ꮟ"⟩,
  ⟨0x13D0, "Ꮠ Ꮡ Ꮢ Ꮣ Ꮤ Ꮥ Ꮦ Ꮧ Ꮨ Ꮩ Ꮪ Ꮫ Ꮬ Ꮭ Ꮮ Ꮯ"⟩,
  ⟨0x13E0, "Ꮰ Ꮱ Ꮲ Ꮳ Ꮴ Ꮵ Ꮶ Ꮷ Ꮸ Ꮹ Ꮺ Ꮻ Ꮼ Ꮽ Ꮾ Ꮿ"⟩,
  ⟨0x13F0, "Ᏸ Ᏹ Ᏺ Ᏻ Ᏼ Ᏽ ? ? Ᏸ Ᏹ Ᏺ Ᏻ Ᏼ Ᏽ"⟩,
  ⟨0x1C80, "в д о с т т ъ ѣ ꙋ"⟩,
  ⟨0x1D2C, "a æ b ᴯ d e ǝ g h i j k l m n"⟩,
  ⟨0x1D3C, "o ȣ p r t u w a ɐ ɑ ᴂ b d e ə ɛ"⟩,
  ⟨0x1D4C, "ɜ g ᵎ k m ŋ o ɔ ᴖ ᴗ p t u ᴝ ɯ v"⟩,
  ⟨0x1D5C, "ᴥ β γ δ φ χ i r u v β γ ρ φ χ"⟩,
  ⟨0x1D78, "н"⟩,
  ⟨0x1D9B, "ɒ c ɕ ð ɜ f ɟ ɡ ɥ ɨ ɩ ɪ ᵻ ʝ ɭ ᶅ"⟩,
  ⟨0x1DAB, "ʟ ɱ ɰ ɲ ɳ ɴ ɵ ɸ ʂ ʃ ƫ ʉ ʊ ᴜ ʋ ʌ"⟩,
  ⟨0x1DBB, "z ʐ ʑ ʒ θ"⟩,
  ⟨0x1E9A, "aʾ ṡ"⟩,
  ⟨0x1F71, "ά ὲ έ ὴ ή ὶ ί ὸ ό ὺ ύ ὼ ώ ? ? ἀι"⟩,
  ⟨0x1F81, "ἁι ἂι ἃι ἄι ἅι ἆι ἇι ἀι ἁι ἂι ἃι ἄι ἅι ἆι ἇι ἠι"⟩,
  ⟨0x1F91, "ἡι ἢι ἣι ἤι ἥι ἦι ἧι ἠι ἡι ἢι ἣι ἤι ἥι ἦι ἧι ὠι"⟩,
  ⟨0x1FA1, "ὡι ὢι ὣι ὤι ὥι ὦι ὧι ὠι ὡι ὢι ὣι ὤι ὥι ὦι ὧι"⟩,
  ⟨0x1FB2, "ὰι αι άι ? ᾶ ᾶι"⟩,
  ⟨0x1FBB, "ά αι ? ι"⟩,
  ⟨0x1FC2, "ὴι ηι ήι ? ῆ ῆι ὲ έ ὴ ή ηι"⟩,
  ⟨0x1FD3, "ΐ"⟩,
  ⟨0x1FDB, "ί"⟩,
  ⟨0x1FE3, "ΰ"⟩,
  ⟨0x1FEB, "ύ"⟩,
  ⟨0x1FEF, "\x60 ? ? ὼι ωι ώι ? ῶ ῶι ὸ ό ὼ ώ ωι"⟩,
  ⟨0x2011, "‐"⟩,
  ⟨0x2033, "′′ ′′′ ‵ ‵‵ ‵‵‵"⟩,
  ⟨0x203C, "!!"⟩,
  ⟨0x2057, "′′′′"⟩,
  ⟨0x2070, "0 i ? ? 4 5 6 7 8 9 + − = ( ) n"⟩,
  ⟨0x208A, "+ − = ( )"⟩,
  ⟨0x2090, "a e o x ə h k l m n"⟩,
  ⟨0x209A, "p s t w y z"⟩,
  ⟨0x20A8, "rs"⟩,
  ⟨0x2102, "c °c"⟩,
  ⟨0x2107, "ɛ ℈ °f g h h h h ħ i i l l ℔ n no"⟩,
  ⟨0x2119, "p q r r r ℞ ℟ sm tel tm ℣ z"⟩,
  ⟨0x2128, "z"⟩,
  ⟨0x212C, "b c ℮ e e f ⅎ m o א ב ג ד i ℺ fax"⟩,
  ⟨0x213C, "π γ γ π ∑"⟩,
  ⟨0x2145, "d d e i j"⟩,
  ⟨0x2150, "1⁄7 1⁄9 1⁄10 1⁄3 2⁄3 1⁄5 2⁄5 3⁄5 4⁄5 1⁄6 5⁄6 1⁄8 3⁄8 5⁄8 7⁄8 1⁄"⟩,
  ⟨0x2160, "i ii iii iv v vi vii viii ix x xi xii l c d m"⟩,
  ⟨0x2170, "i ii iii iv v vi vii viii ix x xi xii l c d m"⟩,
  ⟨0x2189, "0⁄3"⟩,
  ⟨0x222C, "∫∫ ∫∫∫ ∮ ∮∮ ∮∮∮"⟩,
  ⟨0x2329, "〈 〉"⟩,
  ⟨0x2460, "1 2 3 4 5 6 7 8 9 10 11 12 13 14 15 16"⟩,
  ⟨0x2470, "17 18 19 20 (1) (2) (3) (4) (5) (6) (7) (8) (9) (10) (11) (12)"⟩,
  ⟨0x2480, "(13) (14) (15) (16) (17) (18) (19) (20)"⟩,
  ⟨0x249C, "(a) (b) (c) (d) (e) (f) (g) (h) (i) (j) (k) (l) (m) (n) (o) (p)"⟩,
  ⟨0x24AC, "(q) (r) (s) (t) (u) (v) (w) (x) (y) (z)"⟩,
  ⟨0x24EA, "0"⟩,
  ⟨0x2A0C, "∫∫∫∫"⟩,
  ⟨0x2A75, "== ==="⟩,
  ⟨0x2ADC, "⫝̸"⟩,
  ⟨0x2C7C, "j v"⟩,
  ⟨0x2D6F, "ⵡ"⟩,
  ⟨0xA69C, "ъ ь"⟩,
  ⟨0xA770, "ꝯ"⟩,
  ⟨0xA7E2, "ɼ"⟩,
  ⟨0xA7F1, "s c f q"⟩,
  ⟨0xA7F8, "ħ œ"⟩,
  ⟨0xAB5C, "ꜧ ꬷ ɫ ꭒ"⟩,
  ⟨0xAB69, "ʍ"⟩,
  ⟨0xAB6C, "ꭤ"⟩,
  ⟨0xAB70, "Ꭰ Ꭱ Ꭲ Ꭳ Ꭴ Ꭵ Ꭶ Ꭷ Ꭸ Ꭹ Ꭺ Ꭻ Ꭼ Ꭽ Ꭾ Ꭿ"⟩,
  ⟨0xAB80, "Ꮀ Ꮁ Ꮂ Ꮃ Ꮄ Ꮅ Ꮆ Ꮇ Ꮈ Ꮉ Ꮊ Ꮋ Ꮌ Ꮍ Ꮎ Ꮏ"⟩,
  ⟨0xAB90, "Ꮐ Ꮑ Ꮒ Ꮓ Ꮔ Ꮕ Ꮖ Ꮗ Ꮘ Ꮙ Ꮚ Ꮛ Ꮜ Ꮝ Ꮞ Ꮟ"⟩,
  ⟨0xABA0, "Ꮠ Ꮡ Ꮢ Ꮣ Ꮤ Ꮥ Ꮦ Ꮧ Ꮨ Ꮩ Ꮪ Ꮫ Ꮬ Ꮭ Ꮮ Ꮯ"⟩,
  ⟨0xABB0, "Ꮰ Ꮱ Ꮲ Ꮳ Ꮴ Ꮵ Ꮶ Ꮷ Ꮸ Ꮹ Ꮺ Ꮻ Ꮼ Ꮽ Ꮾ Ꮿ"⟩,
  ⟨0xFB00, "ff fi fl ffi ffl st st"⟩,
  ⟨0xFB13, "մն մե մի վն մխ"⟩,
  ⟨0xFB1D, "יִ \ufb1e ײַ ע א ד ה כ ל ם ר ת + שׁ שׂ שּׁ"⟩,
  ⟨0xFB2D, "שּׂ אַ אָ אּ בּ גּ דּ הּ וּ זּ ? טּ יּ ךּ כּ לּ"⟩,
  ⟨0xFB3E, "מּ ? נּ סּ ? ףּ פּ ? צּ קּ רּ שּ תּ וֹ בֿ כֿ"⟩,
  ⟨0xFB4E, "פֿ אל ٱ ٱ ٻ ٻ ٻ ٻ پ پ پ پ ڀ ڀ ڀ ڀ"⟩,
  ⟨0xFE10, ", 、 ? ? ; ! ? 〖 〗"⟩,
  ⟨0xFE31, "— – _ _ ( ) \x7b \x7d 〔 〕 【 】 《 》 〈 〉"⟩,
  ⟨0xFE41, "「 」 『 』"⟩,
  ⟨0xFE4D, "_ _ _ , 、 ? ? ; ? ? ! — ( ) \x7b \x7d"⟩,
  ⟨0xFE5D, "〔 〕 ? & * + - ? ? = ? ? $"⟩,
  ⟨0xFF01, "! \x22 ? $ ? & ' ( ) * + , - ."⟩,
  ⟨0xFF1B, "; ? ="⟩,
  ⟨0xFF3F, "_ \x60"⟩,
  ⟨0xFF5B, "\x7b ? \x7d ~ ⦅ ⦆ . 「 」 、 ・ ヲ ァ ィ ゥ ェ"⟩,
  ⟨0xFF6B, "ォ ャ ュ ョ ッ ー ア イ ウ エ オ カ キ ク ケ コ"⟩,
  ⟨0xFF7B, "サ シ ス セ ソ タ チ ツ テ ト ナ ニ ヌ ネ ノ ハ"⟩,
  ⟨0xFF8B, "ヒ フ ヘ ホ マ ミ ム メ モ ヤ ユ ヨ ラ リ ル レ"⟩,
  ⟨0xFF9B, "ロ ワ ン \u3099 \u309a ? ᄀ ᄁ ᆪ ᄂ ᆬ ᆭ ᄃ ᄄ ᄅ ᆰ"⟩,
  ⟨0xFFAB, "ᆱ ᆲ ᆳ ᆴ ᆵ ᄚ ᄆ ᄇ ᄈ ᄡ ᄉ ᄊ ᄋ ᄌ ᄍ ᄎ"⟩,
  ⟨0xFFBB, "ᄏ ᄐ ᄑ ᄒ"⟩,
  ⟨0xFFC2, "ᅡ ᅢ ᅣ ᅤ ᅥ ᅦ ? ? ᅧ ᅨ ᅩ ᅪ ᅫ ᅬ"⟩,
  ⟨0xFFD2, "ᅭ ᅮ ᅯ ᅰ ᅱ ᅲ ? ? ᅳ ᅴ ᅵ"⟩,
  ⟨0xFFE0, "¢ £ ¬ ? ¦ ¥ ₩ ? │ ← ↑ → ↓ ■ ○"⟩,
  ⟨0x10781, "ː ˑ æ ʙ ɓ ? ʣ ꭦ ʥ ʤ ɖ ɗ ᶑ ɘ ɞ ʩ"⟩,
  ⟨0x10791, "ɤ ɢ ɠ ʛ ħ ʜ ɧ ʄ ʪ ʫ ɬ 𝼄 ꞎ ɮ 𝼅 ʎ"⟩,
  ⟨0x107A1, "𝼆 ø ɶ ɷ q ɺ 𝼈 ɽ ɾ ʀ ʨ ʦ ꭧ ʧ ʈ ⱱ"⟩,
  ⟨0x107B2, "ʏ ʡ ʢ ʘ ǀ ǁ ǂ 𝼊 𝼞"⟩,
  ⟨0x1D15E, "𝅗𝅥 𝅘𝅥 𝅘𝅥𝅮 𝅘𝅥𝅯 𝅘𝅥𝅰 𝅘𝅥𝅱 𝅘𝅥𝅲"⟩,
  ⟨0x1D1BB, "𝆹𝅥 𝆺𝅥 𝆹𝅥𝅮 𝆺𝅥𝅮 𝆹𝅥𝅯 𝆺𝅥𝅯"⟩,
  ⟨0x1D6A4, "ı ȷ ƛ"⟩,
  ⟨0x1D7CA, "ϝ ϝ"⟩,
  ⟨0x1E030, "а б в г д е ж з и к л м о п р с"⟩,
  ⟨0x1E040, "т у ф х ц ч ш ы э ю ꚉ ә і ј ө ү"⟩,
  ⟨0x1E050, "ӏ а б в г д е ж з и к л о п с у"⟩,
  ⟨0x1E060, "ф х ц ч ш ъ ы ґ і ѕ џ ҫ ꙑ ұ"⟩,
  ⟨0x1F101, "0, 1, 2, 3, 4, 5, 6, 7, 8, 9,"⟩,
  ⟨0x1F110, "(a) (b) (c) (d) (e) (f) (g) (h) (i) (j) (k) (l) (m) (n) (o) (p)"⟩,
  ⟨0x1F120, "(q) (r) (s) (t) (u) (v) (w) (x) (y) (z) 〔s〕 c r cd wz"⟩,
  ⟨0x1F14A, "hv mv sd ss ppv wc"⟩,
  ⟨0x1F16A, "mc md mr"⟩,
  ⟨0x1F190, "dj"⟩]

end Identity.Host
