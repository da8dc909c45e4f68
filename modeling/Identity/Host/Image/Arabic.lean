/-
Identity/Host/Image/Arabic.lean

Images of Arabic letters in the shapes that they take at the start, in the
middle and at the end of a word, and of such letters joined.
-/
import Identity.Host.Image.Basic

namespace Identity.Host

/-- Arabic letters by shape. -/
def arabicLetters : List Images := [
  ⟨0x675, "اٴ وٴ ۇٴ يٴ"⟩,
  ⟨0xFB5E, "ٺ ٺ ٺ ٺ ٿ ٿ ٿ ٿ ٹ ٹ ٹ ٹ ڤ ڤ ڤ ڤ"⟩,
  ⟨0xFB6E, "ڦ ڦ ڦ ڦ ڄ ڄ ڄ ڄ ڃ ڃ ڃ ڃ چ چ چ چ"⟩,
  ⟨0xFB7E, "ڇ ڇ ڇ ڇ ڍ ڍ ڌ ڌ ڎ ڎ ڈ ڈ ژ ژ ڑ ڑ"⟩,
  ⟨0xFB8E, "ک ک ک ک گ گ گ گ ڳ ڳ ڳ ڳ ڱ ڱ ڱ ڱ"⟩,
  ⟨0xFB9E, "ں ں ڻ ڻ ڻ ڻ ۀ ۀ ہ ہ ہ ہ ھ ھ ھ ھ"⟩,
  ⟨0xFBAE, "ے ے ۓ ۓ"⟩,
  ⟨0xFBD3, "ڭ ڭ ڭ ڭ ۇ ۇ ۆ ۆ ۈ ۈ ۇٴ ۋ ۋ ۅ ۅ ۉ"⟩,
  ⟨0xFBE3, "ۉ ې ې ې ې ى ى ئا ئا ئە ئە ئو ئو ئۇ ئۇ ئۆ"⟩,
  ⟨0xFBF3, "ئۆ ئۈ ئۈ ئې ئې ئې ئى ئى ئى ی ی ی ی ئج ئح ئم"⟩,
  ⟨0xFC03, "ئى ئي بج بح بخ بم بى بي تج تح تخ تم تى تي ثج ثم"⟩,
  ⟨0xFC13, "ثى ثي جح جم حج حم خج خح خم سج سح سخ سم صح صم ضج"⟩,
  ⟨0xFC23, "ضح ضخ ضم طح طم ظم عج عم غج غم فج فح فخ فم فى في"⟩,
  ⟨0xFC33, "قح قم قى قي كا كج كح كخ كل كم كى كي لج لح لخ لم"⟩,
  ⟨0xFC43, "لى لي مج مح مخ مم مى مي نج نح نخ نم نى ني هج هم"⟩,
  ⟨0xFC53, "هى هي يج يح يخ يم يى يي ذٰ رٰ ىٰ"⟩,
  ⟨0xFC64, "ئر ئز ئم ئن ئى ئي بر بز بم بن بى بي تر تز تم تن"⟩,
  ⟨0xFC74, "تى تي ثر ثز ثم ثن ثى ثي فى في قى قي كا كل كم كى"⟩,
  ⟨0xFC84, "كي لم لى لي ما مم نر نز نم نن نى ني ىٰ ير يز يم"⟩,
  ⟨0xFC94, "ين يى يي ئج ئح ئخ ئم ئه بج بح بخ بم به تج تح تخ"⟩,
  ⟨0xFCA4, "تم ته ثم جح جم حج حم خج خم سج سح سخ سم صح صخ صم"⟩,
  ⟨0xFCB4, "ضج ضح ضخ ضم طح ظم عج عم غج غم فج فح فخ فم قح قم"⟩,
  ⟨0xFCC4, "كج كح كخ كل كم لج لح لخ لم له مج مح مخ مم نج نح"⟩,
  ⟨0xFCD4, "نخ نم نه هج هم هٰ يج يح يخ يم يه ئم ئه بم به تم"⟩,
  ⟨0xFCE4, "ته ثم ثه سم سه شم شه كل كم لم نم نه يم يه ـَّ ـُّ"⟩,
  ⟨0xFCF4, "ـِّ طى طي عى عي غى غي سى سي شى شي حى حي جى جي خى"⟩,
  ⟨0xFD04, "خي صى صي ضى ضي شج شح شخ شم شر سر صر ضر طى طي عى"⟩,
  ⟨0xFD14, "عي غى غي سى سي شى شي حى حي جى جي خى خي صى صي ضى"⟩,
  ⟨0xFD24, "ضي شج شح شخ شم شر سر صر ضر شج شح شخ شم سه شه طم"⟩,
  ⟨0xFD34, "سج سح سخ شج شح شخ طم ظم اً اً"⟩,
  ⟨0xFD50, "تجم تحج تحج تحم تخم تمج تمح تمخ جمح جمح حمي حمى سحج سجح سجى سمح"⟩,
  ⟨0xFD60, "سمح سمج سمم سمم صحح صحح صمم شحم شحم شجي شمخ شمخ شمم شمم ضحى ضخم"⟩,
  ⟨0xFD70, "ضخم طمح طمح طمم طمي عجم عمم عمم عمى غمم غمي غمى فخم فخم قمح قمم"⟩,
  ⟨0xFD80, "لحم لحي لحى لجج لجج لخم لخم لمح لمح محج محم محي مجح مجم مخج مخم"⟩,
  ⟨0xFD92, "مجخ همج همم نحم نحى نجم نجم نجى نمي نمى يمم يمم بخي تجي تجى تخي"⟩,
  ⟨0xFDA2, "تخى تمي تمى جمي جحى جمى سخى صحي شحي ضحي لجي لمي يحي يجي يمي ممي"⟩,
  ⟨0xFDB2, "قمي نحي قمح لحم عمي كمي نجح مخي لجم كمم لجم نجح جحي حجي مجي فمي"⟩,
  ⟨0xFDC2, "بحي كمم عجم صمم سخي نجي"⟩,
  ⟨0xFDF0, "صلے قلے الله اكبر محمد صلعم رسول عليه وسلم صلى ? ? ریال"⟩,
  ⟨0xFE71, "ـً"⟩,
  ⟨0xFE77, "ـَ ? ـُ ? ـِ ? ـّ ? ـْ ء آ آ أ أ ؤ ؤ"⟩,
  ⟨0xFE87, "إ إ ئ ئ ئ ئ ا ا ب ب ب ب ة ة ت ت"⟩,
  ⟨0xFE97, "ت ت ث ث ث ث ج ج ج ج ح ح ح ح خ خ"⟩,
  ⟨0xFEA7, "خ خ د د ذ ذ ر ر ز ز س س س س ش ش"⟩,
  ⟨0xFEB7, "ش ش ص ص ص ص ض ض ض ض ط ط ط ط ظ ظ"⟩,
  ⟨0xFEC7, "ظ ظ ع ع ع ع غ غ غ غ ف ف ف ف ق ق"⟩,
  ⟨0xFED7, "ق ق ك ك ك ك ل ل ل ل م م م م ن ن"⟩,
  ⟨0xFEE7, "ن ن ه ه ه ه و و ى ى ي ي ي ي لآ لآ"⟩,
  ⟨0xFEF7, "لأ لأ لإ لإ لا لا"⟩,
  ⟨0x1EE00, "ا ب ج د ? و ز ح ط ي ك ل م ن س ع"⟩,
  ⟨0x1EE10, "ف ص ق ر ش ت ث خ ذ ض ظ غ ٮ ں ڡ ٯ"⟩,
  ⟨0x1EE21, "ب ج ? ه ? ? ح ? ي ك ل م ن س ع ف"⟩,
  ⟨0x1EE31, "ص ق ? ش ت ث خ ? ض ? غ"⟩,
  ⟨0x1EE42, "ج"⟩,
  ⟨0x1EE47, "ح ? ي ? ل ? ن س ع ? ص ق ? ش"⟩,
  ⟨0x1EE57, "خ ? ض ? غ ? ں ? ٯ ? ب ج ? ه"⟩,
  ⟨0x1EE67, "ح ط ي ك ? م ن س ع ف ص ق ? ش ت ث"⟩,
  ⟨0x1EE77, "خ ? ض ظ غ ٮ ? ڡ ? ا ب ج د ه و ز"⟩,
  ⟨0x1EE87, "ح ط ي ? ل م ن س ع ف ص ق ر ش ت ث"⟩,
  ⟨0x1EE97, "خ ذ ض ظ غ"⟩,
  ⟨0x1EEA1, "ب ج د ? و ز ح ط ي ? ل م ن س ع ف"⟩,
  ⟨0x1EEB1, "ص ق ر ش ت ث خ ذ ض ظ غ"⟩]

end Identity.Host
