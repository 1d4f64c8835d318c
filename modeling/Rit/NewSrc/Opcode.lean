import Rit.NewSrc.Table.Arm
import Rit.NewSrc.Table.Thumb
import Rit.NewSrc.Table.Thumb32
import Rit.Lib.Lookup

/-!
# Opcodes and the instruction table

`sisa_opcode_t` is generated by the preprocessor: one enumerator for each line of the three
`.def` files, in order, with a marker after each file.  Its values are compared by position
(`op < SISA_OP_ARM_MAX`), used as loop counters and used as indices of `glb_instr_tlb`, so an
opcode is the number of its row.  `Op` names the rows the generator mentions.
-/

namespace Rit

/-- `sisa_opcode_t`: the number of a row of `glb_instr_tlb`. -/
abbrev Opcode := ℕ

/-! ## The markers -/

def SISA_OP_NA : Opcode := 0
def SISA_OP_ARM_MAX : Opcode := 668
def SISA_OP_THUMB_MAX : Opcode := 784
def SISA_OP_THUMB_32_MAX : Opcode := 1305
def SISA_OP_MAX : Opcode := 1306

/-! ## The table -/

/-- The rows of `glb_instr_tlb` in order. -/
def glbInstrTlbRows : List InstrDesc :=
  Table.nullRow :: (Table.armRows ++ Table.nullRow :: (Table.thumbRows ++ Table.nullRow ::
    (Table.thumb32Rows ++ [Table.nullRow])))

/-- `glb_instr_tlb[op]`. -/
def glbInstrTlb (op : Opcode) : InstrDesc := Lookup.descend Table.nullRow 11 glbInstrTlbRows op

/-! ## The opcodes the generator names -/

namespace Op

abbrev BLX_imm_a2 : Opcode := 11
abbrev MUL : Opcode := 30
abbrev MLA : Opcode := 31
abbrev UMAAL : Opcode := 32
abbrev MLS : Opcode := 33
abbrev UMULL : Opcode := 34
abbrev UMLAL : Opcode := 35
abbrev SMULL : Opcode := 36
abbrev SMLAL : Opcode := 37
abbrev MRS_a : Opcode := 40
abbrev MSR_reg_a : Opcode := 42
abbrev BX : Opcode := 44
abbrev CLZ : Opcode := 45
abbrev BXJ_reg : Opcode := 46
abbrev BLX_reg : Opcode := 47
abbrev QADD : Opcode := 50
abbrev QSUB : Opcode := 51
abbrev QDADD : Opcode := 52
abbrev QDSUB : Opcode := 53
abbrev SMLABB : Opcode := 56
abbrev SMLAWB : Opcode := 57
abbrev SMULWB : Opcode := 58
abbrev SMLALBB : Opcode := 59
abbrev SMULBB : Opcode := 60
abbrev SWP : Opcode := 63
abbrev SWPB : Opcode := 64
abbrev STREX : Opcode := 65
abbrev LDREX : Opcode := 66
abbrev STREXD : Opcode := 67
abbrev LDREXD : Opcode := 68
abbrev STREXB : Opcode := 69
abbrev LDREXB : Opcode := 70
abbrev STREXH : Opcode := 71
abbrev LDREXH : Opcode := 72
abbrev TST_reg : Opcode := 83
abbrev TEQ_reg : Opcode := 84
abbrev CMP_reg : Opcode := 85
abbrev CMN_reg : Opcode := 86
abbrev MOV_reg : Opcode := 88
abbrev LSL_imm : Opcode := 89
abbrev LSR_imm : Opcode := 90
abbrev ASR_imm : Opcode := 91
abbrev RRX_imm : Opcode := 92
abbrev ROR_imm : Opcode := 93
abbrev MVN_reg : Opcode := 95
abbrev TST_rsh : Opcode := 110
abbrev TEQ_rsh : Opcode := 111
abbrev CMP_rsh : Opcode := 112
abbrev CMN_rsh : Opcode := 113
abbrev LSL_reg : Opcode := 115
abbrev LSR_reg : Opcode := 116
abbrev ASR_reg : Opcode := 117
abbrev ROR_reg : Opcode := 118
abbrev MVN_rsh : Opcode := 120
abbrev STRH_reg : Opcode := 123
abbrev LDRH : Opcode := 124
abbrev STRH_imm : Opcode := 125
abbrev LDRH_imm : Opcode := 126
abbrev LDRH_lit : Opcode := 127
abbrev LDRD_reg : Opcode := 128
abbrev LDRSB : Opcode := 129
abbrev LDRD_imm : Opcode := 130
abbrev LDRD_lit : Opcode := 131
abbrev LDRSB_imm : Opcode := 132
abbrev LDRSB_lit : Opcode := 133
abbrev STRD_reg : Opcode := 134
abbrev LDRSH : Opcode := 135
abbrev STRD_imm : Opcode := 136
abbrev LDRSH_imm : Opcode := 137
abbrev LDRSH_lit : Opcode := 138
abbrev STRHT_a1 : Opcode := 139
abbrev STRHT_a2 : Opcode := 140
abbrev LDRHT_a1 : Opcode := 141
abbrev LDRHT_a2 : Opcode := 142
abbrev LDRSBT_a1 : Opcode := 143
abbrev LDRSBT_a2 : Opcode := 144
abbrev LDRSHT_a1 : Opcode := 145
abbrev LDRSHT_a2 : Opcode := 146
abbrev SUB_imm : Opcode := 151
abbrev ADR_a2 : Opcode := 152
abbrev ADD_imm : Opcode := 154
abbrev ADR_a1 : Opcode := 155
abbrev TST_imm : Opcode := 159
abbrev TEQ_imm : Opcode := 160
abbrev CMP_imm : Opcode := 161
abbrev CMN_imm : Opcode := 162
abbrev MOV_imm_a1 : Opcode := 164
abbrev MVN_imm : Opcode := 167
abbrev NOP : Opcode := 168
abbrev YIELD : Opcode := 169
abbrev WFE : Opcode := 170
abbrev WFI : Opcode := 171
abbrev SEV : Opcode := 172
abbrev DBG : Opcode := 173
abbrev MSR_imm_a : Opcode := 174
abbrev MOVT : Opcode := 176
abbrev USAD8 : Opcode := 185
abbrev USADA8 : Opcode := 186
abbrev SBFX : Opcode := 187
abbrev BFC : Opcode := 188
abbrev BFI : Opcode := 189
abbrev UBFX : Opcode := 190
abbrev POP_a2 : Opcode := 193
abbrev PUSH_a2 : Opcode := 194
abbrev STR_imm : Opcode := 195
abbrev STRT_a1 : Opcode := 196
abbrev LDR_lit : Opcode := 197
abbrev LDR_imm : Opcode := 198
abbrev LDRT_a1 : Opcode := 199
abbrev STRB_imm : Opcode := 200
abbrev STRBT_a1 : Opcode := 201
abbrev LDRB_lit : Opcode := 202
abbrev LDRB_imm : Opcode := 203
abbrev LDRBT_a1 : Opcode := 204
abbrev STR_reg : Opcode := 207
abbrev STRT_a2 : Opcode := 208
abbrev LDR_reg : Opcode := 209
abbrev LDRT_a2 : Opcode := 210
abbrev STRB_reg : Opcode := 211
abbrev STRBT_a2 : Opcode := 212
abbrev LDRB_reg : Opcode := 213
abbrev LDRBT_a2 : Opcode := 214
abbrev SHADD16 : Opcode := 219
abbrev SHASX : Opcode := 220
abbrev SHSAX : Opcode := 221
abbrev SHSUB16 : Opcode := 222
abbrev SHADD8 : Opcode := 223
abbrev SHSUB8 : Opcode := 224
abbrev SADD16 : Opcode := 227
abbrev SASX : Opcode := 228
abbrev SSAX : Opcode := 229
abbrev SSUB16 : Opcode := 230
abbrev SADD8 : Opcode := 231
abbrev SSUB8 : Opcode := 232
abbrev QADD16 : Opcode := 235
abbrev QASX : Opcode := 236
abbrev QSAX : Opcode := 237
abbrev QSUB16 : Opcode := 238
abbrev QADD8 : Opcode := 239
abbrev QSUB8 : Opcode := 240
abbrev UHADD16 : Opcode := 245
abbrev UHASX : Opcode := 246
abbrev UHSAX : Opcode := 247
abbrev UHSUB16 : Opcode := 248
abbrev UHADD8 : Opcode := 249
abbrev UHSUB8 : Opcode := 250
abbrev UADD16 : Opcode := 253
abbrev UASX : Opcode := 254
abbrev USAX : Opcode := 255
abbrev USUB16 : Opcode := 256
abbrev UADD8 : Opcode := 257
abbrev USUB8 : Opcode := 258
abbrev UQADD16 : Opcode := 261
abbrev UQASX : Opcode := 262
abbrev UQSAX : Opcode := 263
abbrev UQSUB16 : Opcode := 264
abbrev UQADD8 : Opcode := 265
abbrev UQSUB8 : Opcode := 266
abbrev PKH : Opcode := 269
abbrev SSAT : Opcode := 270
abbrev USAT : Opcode := 271
abbrev SXTB16 : Opcode := 272
abbrev SXTAB16 : Opcode := 273
abbrev SEL : Opcode := 274
abbrev SSAT16 : Opcode := 275
abbrev SXTB : Opcode := 276
abbrev SXTAB : Opcode := 277
abbrev REV : Opcode := 278
abbrev SXTH : Opcode := 279
abbrev SXTAH : Opcode := 280
abbrev REV16 : Opcode := 281
abbrev UXTB16 : Opcode := 282
abbrev UXTAB16 : Opcode := 283
abbrev USAT16 : Opcode := 284
abbrev UXTB : Opcode := 285
abbrev UXTAB : Opcode := 286
abbrev RBIT : Opcode := 287
abbrev UXTH : Opcode := 288
abbrev UXTAH : Opcode := 289
abbrev REVSH : Opcode := 290
abbrev SMUAD : Opcode := 293
abbrev SMLAD : Opcode := 294
abbrev SMUSD : Opcode := 295
abbrev SMLSD : Opcode := 296
abbrev SMLALD : Opcode := 297
abbrev SMLSLD : Opcode := 298
abbrev SMMUL : Opcode := 299
abbrev SMMLA : Opcode := 300
abbrev SMMLS : Opcode := 301
abbrev POP_a1 : Opcode := 304
abbrev PUSH_a1 : Opcode := 305
abbrev STMDA : Opcode := 306
abbrev LDMDA : Opcode := 307
abbrev STM : Opcode := 308
abbrev LDM : Opcode := 309
abbrev STMDB : Opcode := 310
abbrev LDMDB : Opcode := 311
abbrev STMIB : Opcode := 312
abbrev LDMIB : Opcode := 313
abbrev B_imm : Opcode := 317
abbrev BL_imm_a1 : Opcode := 318
abbrev SVC : Opcode := 321
abbrev PLI_imm : Opcode := 614
abbrev PLD_imm : Opcode := 615
abbrev PLD_lit : Opcode := 616
abbrev CLREX : Opcode := 617
abbrev DSB : Opcode := 618
abbrev DMB : Opcode := 619
abbrev ISB : Opcode := 620
abbrev PLI : Opcode := 621
abbrev PLD : Opcode := 622
abbrev MUL_reg_T1 : Opcode := 706
abbrev CMP_reg_T2 : Opcode := 712
abbrev BX_T1 : Opcode := 714
abbrev BLX_reg_T1 : Opcode := 715
abbrev LDR_lit_T1 : Opcode := 716
abbrev STR_reg_T1 : Opcode := 719
abbrev STRH_reg_T1 : Opcode := 720
abbrev STRB_reg_T1 : Opcode := 721
abbrev LDRSB_reg_T1 : Opcode := 722
abbrev LDR_reg_T1 : Opcode := 723
abbrev LDRH_reg_T1 : Opcode := 724
abbrev LDRB_reg_T1 : Opcode := 725
abbrev LDRSH_reg_T1 : Opcode := 726
abbrev STR_imm_T1 : Opcode := 729
abbrev LDR_imm_T1 : Opcode := 730
abbrev STRB_imm_T1 : Opcode := 731
abbrev LDRB_imm_T1 : Opcode := 732
abbrev STRH_imm_T1 : Opcode := 735
abbrev LDRH_imm_T1 : Opcode := 736
abbrev STR_imm_T2 : Opcode := 737
abbrev LDR_imm_T2 : Opcode := 738
abbrev ADR_T1 : Opcode := 741
abbrev CBZ_T1 : Opcode := 748
abbrev PUSH_T : Opcode := 753
abbrev CBNZ_T1 : Opcode := 754
abbrev POP_T : Opcode := 758
abbrev WFI_T1 : Opcode := 763
abbrev STM_T1 : Opcode := 767
abbrev LDM_T1 : Opcode := 768
abbrev B_T1 : Opcode := 769
abbrev SVC_T1 : Opcode := 770
abbrev B_T2 : Opcode := 773
abbrev SRS_T1 : Opcode := 796
abbrev RFE_T1 : Opcode := 797
abbrev STREXB_T1 : Opcode := 798
abbrev STREXH_T1 : Opcode := 799
abbrev LDREXB_T1 : Opcode := 800
abbrev LDREXH_T1 : Opcode := 801
abbrev STREX_T1 : Opcode := 802
abbrev LDREX_T1 : Opcode := 803
abbrev STREXD_T1 : Opcode := 804
abbrev STRD_imm_T1 : Opcode := 805
abbrev TBB_T1 : Opcode := 806
abbrev LDREXD_T1 : Opcode := 808
abbrev LDRD_imm_T1 : Opcode := 809
abbrev LDRD_lit_T1 : Opcode := 810
abbrev STM_T2 : Opcode := 811
abbrev POP_T2 : Opcode := 812
abbrev LDM_T2 : Opcode := 813
abbrev PUSH_T2 : Opcode := 814
abbrev PUSH_T3 : Opcode := 815
abbrev STMDB_T1 : Opcode := 816
abbrev LDMDB_T1 : Opcode := 817
abbrev SRS_T2 : Opcode := 818
abbrev RFE_T2 : Opcode := 819
abbrev AND_reg_T2 : Opcode := 822
abbrev TST_reg_T2 : Opcode := 823
abbrev BIC_reg_T2 : Opcode := 824
abbrev ORR_reg_T2 : Opcode := 825
abbrev MOV_reg_T3 : Opcode := 826
abbrev ORN_reg_T1 : Opcode := 827
abbrev MVN_reg_T2 : Opcode := 828
abbrev EOR_reg_T2 : Opcode := 829
abbrev TEQ_reg_T1 : Opcode := 830
abbrev PKH_reg_T1 : Opcode := 831
abbrev ADD_reg_T3 : Opcode := 832
abbrev CMN_reg_T2 : Opcode := 833
abbrev ADC_reg_T2 : Opcode := 834
abbrev SBC_reg_T2 : Opcode := 835
abbrev SUB_reg_T2 : Opcode := 836
abbrev CMP_reg_T3 : Opcode := 837
abbrev RSB_reg_T1 : Opcode := 838
abbrev LSL_imm_T2 : Opcode := 839
abbrev LSR_imm_T2 : Opcode := 840
abbrev ASR_imm_T2 : Opcode := 841
abbrev ROR_imm_T2 : Opcode := 842
abbrev RRX_T1 : Opcode := 843
abbrev VQRSHRN_T1 : Opcode := 965
abbrev VMLAL_int_T2 : Opcode := 977
abbrev VMLSL_int_T2 : Opcode := 978
abbrev VMULL_int_T2 : Opcode := 981
abbrev VMULL_poly_T2 : Opcode := 983
abbrev AND_imm_T1 : Opcode := 1066
abbrev TST_imm_T1 : Opcode := 1067
abbrev BIC_imm_T1 : Opcode := 1068
abbrev ORR_imm_T1 : Opcode := 1069
abbrev MOV_imm_T2 : Opcode := 1070
abbrev ORN_imm_T1 : Opcode := 1071
abbrev MVN_imm_T1 : Opcode := 1072
abbrev EOR_imm_T1 : Opcode := 1073
abbrev TEQ_imm_T1 : Opcode := 1074
abbrev ADD_imm_T3 : Opcode := 1075
abbrev ADD_sp_imm_T3 : Opcode := 1076
abbrev CMN_imm_T1 : Opcode := 1077
abbrev ADC_imm_T1 : Opcode := 1078
abbrev SBC_imm_T1 : Opcode := 1079
abbrev SUB_imm_T3 : Opcode := 1080
abbrev SUB_sp_imm_T2 : Opcode := 1081
abbrev CMP_imm_T2 : Opcode := 1082
abbrev RSB_imm_T2 : Opcode := 1083
abbrev ADD_imm_T4 : Opcode := 1086
abbrev ADD_sp_imm_T4 : Opcode := 1087
abbrev ADR_T3 : Opcode := 1088
abbrev MOV_imm_T3 : Opcode := 1089
abbrev SUB_imm_T4 : Opcode := 1090
abbrev SUB_sp_imm_T3 : Opcode := 1091
abbrev ADR_T2 : Opcode := 1092
abbrev MOVT_T1 : Opcode := 1093
abbrev SSAT_T1 : Opcode := 1094
abbrev SSAT16_T1 : Opcode := 1095
abbrev SBFX_T1 : Opcode := 1096
abbrev BFC_T1 : Opcode := 1097
abbrev BFI_T1 : Opcode := 1098
abbrev USAT_T1 : Opcode := 1099
abbrev USAT16_T1 : Opcode := 1100
abbrev UBFX_T1 : Opcode := 1101
abbrev UDIV_T1 : Opcode := 1102
abbrev MSR_a_T1 : Opcode := 1106
abbrev MSR_s_T1 : Opcode := 1107
abbrev CPS_T2 : Opcode := 1108
abbrev NOP_T2 : Opcode := 1109
abbrev YIELD_T2 : Opcode := 1110
abbrev WFE_T2 : Opcode := 1111
abbrev WFI_T2 : Opcode := 1112
abbrev SEV_T2 : Opcode := 1113
abbrev DBG_T1 : Opcode := 1114
abbrev CLREX_T1 : Opcode := 1117
abbrev DSB_T1 : Opcode := 1118
abbrev DMB_T1 : Opcode := 1119
abbrev ISB_T1 : Opcode := 1120
abbrev MRS_a_T1 : Opcode := 1123
abbrev MRS_s_T1 : Opcode := 1124
abbrev BL_imm_T1 : Opcode := 1126
abbrev BLX_imm_T2 : Opcode := 1127
abbrev STRB_imm_T2 : Opcode := 1130
abbrev STRB_imm_T3 : Opcode := 1131
abbrev STRBT_T1 : Opcode := 1132
abbrev STRB_reg_T2 : Opcode := 1133
abbrev STRH_imm_T2 : Opcode := 1134
abbrev STRH_imm_T3 : Opcode := 1135
abbrev STRHT_T1 : Opcode := 1136
abbrev STRH_reg_T2 : Opcode := 1137
abbrev STR_imm_T3 : Opcode := 1138
abbrev STR_imm_T4 : Opcode := 1139
abbrev STRT_T1 : Opcode := 1140
abbrev STR_reg_T2 : Opcode := 1141
abbrev POP_T3 : Opcode := 1142
abbrev PLD_lit_T1 : Opcode := 1177
abbrev PLD_imm_T1 : Opcode := 1178
abbrev PLD_imm_T2 : Opcode := 1179
abbrev PLD_reg_T1 : Opcode := 1180
abbrev PLDW_imm_T1 : Opcode := 1181
abbrev PLDW_imm_T2 : Opcode := 1182
abbrev PLDW_reg_T1 : Opcode := 1183
abbrev PLI_imm_T1 : Opcode := 1184
abbrev PLI_imm_T2 : Opcode := 1185
abbrev PLI_lit_T3 : Opcode := 1186
abbrev PLI_reg_T1 : Opcode := 1187
abbrev LDRB_lit_T1 : Opcode := 1188
abbrev LDRB_imm_T2 : Opcode := 1189
abbrev LDRB_imm_T3 : Opcode := 1190
abbrev LDRBT_T1 : Opcode := 1191
abbrev LDRB_reg_T2 : Opcode := 1192
abbrev LDRSB_lit_T1 : Opcode := 1193
abbrev LDRSB_imm_T1 : Opcode := 1194
abbrev LDRSB_imm_T2 : Opcode := 1195
abbrev LDRSBT_T1 : Opcode := 1196
abbrev LDRSB_reg_T2 : Opcode := 1197
abbrev LDRH_lit_T1 : Opcode := 1198
abbrev LDRH_imm_T2 : Opcode := 1199
abbrev LDRHT_T1 : Opcode := 1200
abbrev LDRH_imm_T3 : Opcode := 1201
abbrev LDRH_reg_T2 : Opcode := 1202
abbrev LDRSH_lit_T1 : Opcode := 1203
abbrev LDRSH_imm_T1 : Opcode := 1204
abbrev LDRSH_imm_T2 : Opcode := 1205
abbrev LDRSHT_T1 : Opcode := 1206
abbrev LDRSH_reg_T2 : Opcode := 1207
abbrev LDRT_T1 : Opcode := 1208
abbrev LDR_imm_T3 : Opcode := 1209
abbrev LDR_imm_T4 : Opcode := 1210
abbrev LDR_reg_T2 : Opcode := 1211
abbrev LDR_lit_T2 : Opcode := 1212
abbrev LSL_reg_T2 : Opcode := 1215
abbrev LSR_reg_T2 : Opcode := 1216
abbrev ASR_reg_T2 : Opcode := 1217
abbrev ROR_reg_T2 : Opcode := 1218
abbrev SXTAH_T1 : Opcode := 1219
abbrev SXTH_T2 : Opcode := 1220
abbrev UXTAH_T1 : Opcode := 1221
abbrev UXTH_T2 : Opcode := 1222
abbrev SXTAB16_T1 : Opcode := 1223
abbrev SXTB16_T1 : Opcode := 1224
abbrev UXTAB16_T1 : Opcode := 1225
abbrev UXTB16_T1 : Opcode := 1226
abbrev SXTAB_T1 : Opcode := 1227
abbrev SXTB_T2 : Opcode := 1228
abbrev UXTAB_T1 : Opcode := 1229
abbrev UXTB_T2 : Opcode := 1230
abbrev SADD16_T1 : Opcode := 1231
abbrev SASX_T1 : Opcode := 1232
abbrev SSAX_T1 : Opcode := 1233
abbrev SSUB16_T1 : Opcode := 1234
abbrev SADD8_T1 : Opcode := 1235
abbrev SSUB8_T1 : Opcode := 1236
abbrev QADD16_T1 : Opcode := 1237
abbrev QASX_T1 : Opcode := 1238
abbrev QSAX_T1 : Opcode := 1239
abbrev QSUB16_T1 : Opcode := 1240
abbrev QADD8_T1 : Opcode := 1241
abbrev QSUB8_T1 : Opcode := 1242
abbrev SHADD16_T1 : Opcode := 1243
abbrev SHASX_T1 : Opcode := 1244
abbrev SHSAX_T1 : Opcode := 1245
abbrev SHSUB16_T1 : Opcode := 1246
abbrev SHADD8_T1 : Opcode := 1247
abbrev SHSUB8_T1 : Opcode := 1248
abbrev UADD16_T1 : Opcode := 1249
abbrev UASX_T1 : Opcode := 1250
abbrev USAX_T1 : Opcode := 1251
abbrev USUB16_T1 : Opcode := 1252
abbrev UADD8_T1 : Opcode := 1253
abbrev USUB8_T1 : Opcode := 1254
abbrev UQADD16_T1 : Opcode := 1255
abbrev UQASX_T1 : Opcode := 1256
abbrev UQSAX_T1 : Opcode := 1257
abbrev UQSUB16_T1 : Opcode := 1258
abbrev UQADD8_T1 : Opcode := 1259
abbrev UQSUB8_T1 : Opcode := 1260
abbrev UHADD16_T1 : Opcode := 1261
abbrev UHASX_T1 : Opcode := 1262
abbrev UHSAX_T1 : Opcode := 1263
abbrev UHSUB16_T1 : Opcode := 1264
abbrev UHADD8_T1 : Opcode := 1265
abbrev UHSUB8_T1 : Opcode := 1266
abbrev QADD_T1 : Opcode := 1267
abbrev QDADD_T1 : Opcode := 1268
abbrev QSUB_T1 : Opcode := 1269
abbrev QDSUB_T1 : Opcode := 1270
abbrev REV_T2 : Opcode := 1271
abbrev REV16_T2 : Opcode := 1272
abbrev RBIT_T1 : Opcode := 1273
abbrev REVSH_T2 : Opcode := 1274
abbrev SEL_T1 : Opcode := 1275
abbrev CLZ_T1 : Opcode := 1276
abbrev MUL_T2 : Opcode := 1279
abbrev MLA_T1 : Opcode := 1280
abbrev MLS_T1 : Opcode := 1281
abbrev SMLABB_T1 : Opcode := 1282
abbrev SMULBB_T1 : Opcode := 1283
abbrev SMLAD_T1 : Opcode := 1284
abbrev SMUAD_T1 : Opcode := 1285
abbrev SMLAWB_T1 : Opcode := 1286
abbrev SMULWB_T1 : Opcode := 1287
abbrev SMLSD_T1 : Opcode := 1288
abbrev SMUSD_T1 : Opcode := 1289
abbrev SMMLA_T1 : Opcode := 1290
abbrev SMMUL_T1 : Opcode := 1291
abbrev SMMLS_T1 : Opcode := 1292
abbrev USAD8_T1 : Opcode := 1293
abbrev USADA8_T1 : Opcode := 1294
abbrev SMULL_T1 : Opcode := 1295
abbrev SDIV_T1 : Opcode := 1296
abbrev UMULL_T1 : Opcode := 1297
abbrev SMLAL_T1 : Opcode := 1298
abbrev SMLALBB_T1 : Opcode := 1299
abbrev SMLALD_T1 : Opcode := 1300
abbrev SMLSLD_T1 : Opcode := 1301
abbrev UMLAL_T1 : Opcode := 1302
abbrev UMAAL_T1 : Opcode := 1303

end Op

example : [Op.MUL, Op.LDR_imm, Op.PKH, Op.LDM_T1, Op.PUSH_T3, Op.UMAAL_T1].map
    (fun op => (glbInstrTlb op).name) =
      [some "MUL", some "LDR_imm", some "PKH", some "LDM_T1", some "PUSH_T3", some "UMAAL_T1"] := by
  decide +kernel

lemma glbInstrTlbRows_length : glbInstrTlbRows.length = SISA_OP_MAX := by
  decide +kernel

lemma glbInstrTlb_eq_getD {op : Opcode} (hop : op < SISA_OP_MAX) :
    glbInstrTlb op = glbInstrTlbRows.getD op Table.nullRow :=
  Lookup.descend_eq_getD _ _ _ _ (Nat.lt_trans hop (by decide))

/-! ## Statements about all rows

A property of rows is decided once over the list; these two lemmas turn the decision into a
statement about opcodes. -/

/-- A property of all rows holds of the row of any number, also past the table. -/
lemma forall_row {P : InstrDesc → Bool} (hrows : glbInstrTlbRows.all P = true)
    (hnull : P Table.nullRow = true) (op : Opcode) : P (glbInstrTlb op) = true := by
  rcases Lookup.descend_mem_or_eq Table.nullRow 11 glbInstrTlbRows op with hmem | heq
  · exact List.all_eq_true.mp hrows _ hmem
  · rw [glbInstrTlb, heq]
    exact hnull

/-- A property of all numbered rows holds of every opcode with its row. -/
lemma forall_op {P : Opcode → InstrDesc → Bool}
    (hrows : (glbInstrTlbRows.zipIdx.all fun p => P p.2 p.1) = true) {op : Opcode}
    (hop : op < SISA_OP_MAX) : P op (glbInstrTlb op) = true := by
  have hlt : op < glbInstrTlbRows.length := by rw [glbInstrTlbRows_length]; exact hop
  have hmem : (glbInstrTlbRows[op], op) ∈ glbInstrTlbRows.zipIdx := by
    rw [List.mem_zipIdx_iff_getElem?]
    exact List.getElem?_eq_getElem hlt
  have hP := List.all_eq_true.mp hrows _ hmem
  rw [glbInstrTlb_eq_getD hop, List.getD_eq_getElem?_getD, List.getElem?_eq_getElem hlt]
  exact hP

end Rit
