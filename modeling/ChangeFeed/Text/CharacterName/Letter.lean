/-!
The names of Latin, Greek and Cyrillic letters.

An entry holds the words that some names start with, and how they go on, with semicolons between.
-/

namespace ChangeFeed.Text.CharacterName

/-- The names of letters. -/
def letters : List (String × String) := [
  ("CYRILLIC CAPITAL LETTER",
    "A; BE; BYELORUSSIAN-UKRAINIAN I; CHE; DE; DJE; DZE; DZHE; E; EF; EL; EM; EN; ER; ES; GHE;
     GJE; HA; HARD SIGN; I; I WITH GRAVE; IE; IE WITH GRAVE; IO; JE; KA; KJE; LJE; NJE; O; PE;
     SHA; SHCHA; SHORT I; SHORT U; SOFT SIGN; TE; TSE; TSHE; U; UKRAINIAN IE; VE; YA; YERU; YI;
     YU; ZE; ZHE"),
  ("CYRILLIC SMALL LETTER",
    "A; BE; BYELORUSSIAN-UKRAINIAN I; CHE; DE; DJE; DZE; DZHE; E; EF; EL; EM; EN; ER; ES; GHE;
     GJE; HA; HARD SIGN; I; I WITH GRAVE; IE; IE WITH GRAVE; IO; JE; KA; KJE; LJE; NJE; O; PE;
     SHA; SHCHA; SHORT I; SHORT U; SOFT SIGN; TE; TSE; TSHE; U; UKRAINIAN IE; VE; YA; YERU; YI;
     YU; ZE; ZHE"),
  ("GREEK",
    "ANO TELEIA; BETA SYMBOL; DIALYTIKA TONOS; KAI SYMBOL; KAPPA SYMBOL; LOWER NUMERAL SIGN;
     LUNATE EPSILON SYMBOL; LUNATE SIGMA SYMBOL; NUMERAL SIGN; PHI SYMBOL; PI SYMBOL;
     QUESTION MARK; REVERSED LUNATE EPSILON SYMBOL; RHO SYMBOL; RHO WITH STROKE SYMBOL;
     THETA SYMBOL; TONOS; UPSILON WITH ACUTE AND HOOK SYMBOL;
     UPSILON WITH DIAERESIS AND HOOK SYMBOL; UPSILON WITH HOOK SYMBOL; YPOGEGRAMMENI"),
  ("GREEK CAPITAL",
    "DOTTED LUNATE SIGMA SYMBOL; KAI SYMBOL; LUNATE SIGMA SYMBOL;
     REVERSED DOTTED LUNATE SIGMA SYMBOL; REVERSED LUNATE SIGMA SYMBOL; THETA SYMBOL"),
  ("GREEK CAPITAL LETTER",
    "ALPHA; ALPHA WITH TONOS; ARCHAIC SAMPI; BETA; CHI; DELTA; EPSILON; EPSILON WITH TONOS; ETA;
     ETA WITH TONOS; GAMMA; HETA; IOTA; IOTA WITH DIALYTIKA; IOTA WITH TONOS; KAPPA; LAMDA; MU;
     NU; OMEGA; OMEGA WITH TONOS; OMICRON; OMICRON WITH TONOS; PAMPHYLIAN DIGAMMA; PHI; PI; PSI;
     RHO; SAN; SHO; SIGMA; TAU; THETA; UPSILON; UPSILON WITH DIALYTIKA; UPSILON WITH TONOS; XI;
     YOT; ZETA"),
  ("GREEK LETTER",
    "ARCHAIC KOPPA; DIGAMMA; KOPPA; SAMPI; STIGMA; YOT"),
  ("GREEK SMALL",
    "DOTTED LUNATE SIGMA SYMBOL; REVERSED DOTTED LUNATE SIGMA SYMBOL;
     REVERSED LUNATE SIGMA SYMBOL"),
  ("GREEK SMALL LETTER",
    "ALPHA; ALPHA WITH TONOS; ARCHAIC KOPPA; ARCHAIC SAMPI; BETA; CHI; DELTA; DIGAMMA; EPSILON;
     EPSILON WITH TONOS; ETA; ETA WITH TONOS; FINAL SIGMA; GAMMA; HETA; IOTA; IOTA WITH DIALYTIKA;
     IOTA WITH DIALYTIKA AND TONOS; IOTA WITH TONOS; KAPPA; KOPPA; LAMDA; MU; NU; OMEGA;
     OMEGA WITH TONOS; OMICRON; OMICRON WITH TONOS; PAMPHYLIAN DIGAMMA; PHI; PI; PSI; RHO; SAMPI;
     SAN; SHO; SIGMA; STIGMA; TAU; THETA; UPSILON; UPSILON WITH DIALYTIKA;
     UPSILON WITH DIALYTIKA AND TONOS; UPSILON WITH TONOS; XI; ZETA"),
  ("LATIN",
    "CROSS"),
  ("LATIN CAPITAL",
    "LIGATURE IJ; LIGATURE OE"),
  ("LATIN CAPITAL LETTER",
    "A; AE; B; C; C WITH ACUTE; C WITH CARON; C WITH CEDILLA; C WITH CIRCUMFLEX; C WITH DOT ABOVE;
     D; D WITH CARON; D WITH STROKE; E; ENG; ETH; F; G; G WITH BREVE; G WITH CEDILLA;
     G WITH CIRCUMFLEX; G WITH DOT ABOVE; H; H WITH CIRCUMFLEX; H WITH STROKE; I; J;
     J WITH CIRCUMFLEX; K; K WITH CEDILLA; L; L WITH ACUTE; L WITH CARON; L WITH CEDILLA;
     L WITH MIDDLE DOT; L WITH STROKE; M; N; N WITH ACUTE; N WITH CARON; N WITH CEDILLA;
     N WITH TILDE; O; P; Q; R; R WITH ACUTE; R WITH CARON; R WITH CEDILLA; S; S WITH ACUTE;
     S WITH CARON; S WITH CEDILLA; S WITH CIRCUMFLEX; T; T WITH CARON; T WITH CEDILLA;
     T WITH STROKE; THORN; U; V; W; W WITH CIRCUMFLEX; X; Y; Y WITH ACUTE; Y WITH CIRCUMFLEX;
     Y WITH DIAERESIS; Z; Z WITH ACUTE; Z WITH CARON; Z WITH DOT ABOVE"),
  ("LATIN CAPITAL LETTER A WITH",
    "ACUTE; BREVE; CIRCUMFLEX; DIAERESIS; GRAVE; MACRON; OGONEK; RING ABOVE; TILDE"),
  ("LATIN CAPITAL LETTER E WITH",
    "ACUTE; BREVE; CARON; CIRCUMFLEX; DIAERESIS; DOT ABOVE; GRAVE; MACRON; OGONEK"),
  ("LATIN CAPITAL LETTER I WITH",
    "ACUTE; BREVE; CIRCUMFLEX; DIAERESIS; DOT ABOVE; GRAVE; MACRON; OGONEK; TILDE"),
  ("LATIN CAPITAL LETTER O WITH",
    "ACUTE; BREVE; CIRCUMFLEX; DIAERESIS; DOUBLE ACUTE; GRAVE; MACRON; STROKE; TILDE"),
  ("LATIN CAPITAL LETTER U WITH",
    "ACUTE; BREVE; CIRCUMFLEX; DIAERESIS; DOUBLE ACUTE; GRAVE; MACRON; OGONEK; RING ABOVE; TILDE"),
  ("LATIN SMALL",
    "LIGATURE IJ; LIGATURE OE"),
  ("LATIN SMALL LETTER",
    "A; AE; B; C; C WITH ACUTE; C WITH CARON; C WITH CEDILLA; C WITH CIRCUMFLEX; C WITH DOT ABOVE;
     D; D WITH CARON; D WITH STROKE; DOTLESS I; E; ENG; ETH; F; G; G WITH BREVE; G WITH CEDILLA;
     G WITH CIRCUMFLEX; G WITH DOT ABOVE; H; H WITH CIRCUMFLEX; H WITH STROKE; I; J;
     J WITH CIRCUMFLEX; K; K WITH CEDILLA; KRA; L; L WITH ACUTE; L WITH CARON; L WITH CEDILLA;
     L WITH MIDDLE DOT; L WITH STROKE; LONG S; M; N; N PRECEDED BY APOSTROPHE; N WITH ACUTE;
     N WITH CARON; N WITH CEDILLA; N WITH TILDE; O; P; Q; R; R WITH ACUTE; R WITH CARON;
     R WITH CEDILLA; REVERSED C; S; S WITH ACUTE; S WITH CARON; S WITH CEDILLA; S WITH CIRCUMFLEX;
     SHARP S; T; T WITH CARON; T WITH CEDILLA; T WITH STROKE; THORN; U; V; W; W WITH CIRCUMFLEX;
     X; Y; Y WITH ACUTE; Y WITH CIRCUMFLEX; Y WITH DIAERESIS; Z; Z WITH ACUTE; Z WITH CARON;
     Z WITH DOT ABOVE"),
  ("LATIN SMALL LETTER A WITH",
    "ACUTE; BREVE; CIRCUMFLEX; DIAERESIS; GRAVE; MACRON; OGONEK; RING ABOVE; TILDE"),
  ("LATIN SMALL LETTER E WITH",
    "ACUTE; BREVE; CARON; CIRCUMFLEX; DIAERESIS; DOT ABOVE; GRAVE; MACRON; OGONEK"),
  ("LATIN SMALL LETTER I WITH",
    "ACUTE; BREVE; CIRCUMFLEX; DIAERESIS; GRAVE; MACRON; OGONEK; TILDE"),
  ("LATIN SMALL LETTER O WITH",
    "ACUTE; BREVE; CIRCUMFLEX; DIAERESIS; DOUBLE ACUTE; GRAVE; MACRON; STROKE; TILDE"),
  ("LATIN SMALL LETTER U WITH",
    "ACUTE; BREVE; CIRCUMFLEX; DIAERESIS; DOUBLE ACUTE; GRAVE; MACRON; OGONEK; RING ABOVE; TILDE")]

end ChangeFeed.Text.CharacterName
