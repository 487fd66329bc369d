import TemplateCompiler.Text.Packed

/-!
Tables of characters (Unicode 14). Each table is a line of a packed text and has entries with blanks between
them; numbers are hexadecimal.
-/

namespace TemplateCompiler.Text

/-- The tables, in the order of their lines. -/
inductive CharacterTable where
  | upper | lower | title | caseIgnorable | lowerRun | identifierStart | identifierPart | printable
  | alphanumeric | compatible | composite | combiningClass | nameAlias

def packedTables : String := "
gUNE=H<dT3](yF!tmb*7D__CUYr|(0#w&Wl#@S$7p>EUXwTiMPv)foX7m5qu8|1::g]RJ=&88Or.p)&fzn$R6nXTGYlgU7yExk:WLa3mb^Zllm
>zPbKk9jcCmpCBA+qH;fh#_es7g5o~Xs0,h($c7QSUfG~WiS!|zBGnz,r1f<,jpGBQ2l;v16Bf&?Uh1d@FqS#.8sFblUPg+k6eaDUrYzku~lMY
SQr*m]828P)7$B&fiI+sR78.+6)JsaIuj(@@D:w!60Zg;f=xkO*JBHT_L]@(PA)VJ&[8vDMkmF0A:.;NGLrt0P+DO!~qGykr;t2P@s1.,biF]8
_osfPBCaFgWH,)X1]HIqA,clu*E,Bb[dHjjzAq&O.dWKpuQx!)D<EY:I25i8edn^]$O7;OQCqy@VkTfdV~fQYC&[hy%_u28M$e|EJT,~b1W6|l
4~I5>N1b+134b7ct,bS31YtrwZ^L#^VmKyk@zJl]xl)5@ud6+:A5c2l.LF?5yE3tz7T[Ct;;i~qs,Eix9TEUsl;Y7:(Ta|tZ>?bOKbkW(uDzsx
R%Z?=d0R)X!E^@t]n:vS|=Y^+rIYsM)!7~M%B+]~z2PIJ@YW2MW=2z_u@m)XuSiPj4anzHLs%R:N+)0V,S%RwdcfS*4KXk,69)sBMS+xg*[=R5
3?eOTx.T#Z@D<3;D.,FN+w&M[|G?9EnU*|EsT*cSvDeAQ[A>Vy~hW,(i$LZ,,L%Y=ING?rbllWswLW~UHRBxhp%3$BquQ!f&>qG>W&N2Pv~6:s
wx~tDS.FbT(]=C>EtUl=*kM]I^m&gB[tB6AFM!Ap)<Q4q6i;=^&1hit,=<YgnsR6yJWh?g|c#Q!(BDSe!_P%lv0&P%>@5hiu!_wQ)(dHrht&nU
w56K>X1qy<(:Ak6Y|i,ENr&6&Y2&:02^,<Y*B(dOSd_)CJ%lCssd&g(U!C4u&!rN3^a#t9<F@=x7rUt+#&(pjF20DgT~@q&y%2n_<i>>Gk8GxG
@^wtJM4G4ag#zQ?Ti8c+W*mIfqs#.CTq$EqvOfMbM;7?sX9i*AyqpVEo?fAfrsTOIk1dO8,)Z%7O)1py!f<=3xKS6e:yu%FjXDRd0qCsgd44a:
%Qm4c[68TfBgeykGTGuTesG><v4qSVi<S8[av_;ZdH,ynuw0uYTmI[%H>;[ywTnVL*kCuL<7.d7zwDXNFAiDm$Bst_PvVPgfO*#;;0gvn&vwYi
JTBcikj<5t8R,.LSAX]4aI_shh+k7;t)Fv|YIvrZ>Tu!1quF])7?.NEXaTOqV!:1~W?9CBl;Uwz)M_]OFd(6W2a0aW.|n:8nuK#)sYMl!UPiZG
+<_s~SMVkQR84@;gj*f]SQW<Ko>ozMSt+wJCD+1qX.%=HmuU;@Oek(.3e>aAfB.pk;S&3VcgQbt^I,5:e#sIXOSU0jC=@lyRlor5xnl5_nlt1?
.g.qd>4oRBV!PuKJ3K2wEl2J[TlfdIP3YNVOdx8Bd$jeeQ:khz1)[$.@GZNNlKi?T_MhT4ytmWwE34OMj!ztpE1v%X=%rLD,fBoea#dA2g]bED
)aS[k|f)d@V[gCDTh!TWPc|e|;(uVPW%nqkeqkpouS]c!#&bmSQng;cKdQ+c4VIj1q?fb$&>LRL4xBKjxo61XIO5H^vu6+Zx?Qw?]lU_JcXlb>
XblzlmtVj|!5n=>GU<Rp)|0^9>pTM=ge+vq.fkIAN)t~x@.^O6_evdTAK%<^MUHrTTjIKbajU1UwmACb:EpsTQM%[_6!gOvhz@b7f8j2OX)q;m
p743b8$4:th.:3%ZMb&I?*bp#VN_y[y1,oolD!iBs;9C<@sluvdZB)p:Mj<IByk#O8:IZVzh?_:dd6XFHt*<2iq4f;rlOQs|E%~z^A0%mZU%a&
i:ub7h:Bwe34MLPqYj[M0CGkw08m1EN7+05RC[#pK[VN@3MDLwjF+V.w+lIyU4QLT(Me9Z0K_M(>Gl]q3G5o*2m)^*%0<QCCX,*D33Fn]tP3IO
oxLScE8HfsssP(hktyN+Xw>%gac=bqmKSU18l;L4AP$rm?<*bw|atJpzjM31|ePiIX.YAzS>QtdQbAOF,IC7ebmzhBBuXKR;Hb|w2>n@dvc4gT
LQl2TsW[zI8yGWd~HfrsvftN+cgyd3cb8Lv>[u!zRGXKR8vw9dHMkF=%BfyT0uz;!VgPhd6O_<=e0mo36Ob+#,UwAY8<AJJn.cy6ZAfRY$Pb0^
M4ZyXPoxs@gsvepeCU9<yHafz(P:=dxITM?2iHQVN(35J%!52^1:QmZcLI[Ab_K1Z>?%2oVdon,s=#qT*b$MM_cmsMO_8#H5z@#>PJMFAl8du5
cq8p3yQpOSBHK==ow~M,%.,>?8F5]H8xPoTjDsBPl,oaudkPpvAhWNYHmPw$,ollXPTH90f5Gg@r?@9.k<v6ov(:(|ci~f3YNMn:WXndt.(e)v
MimPR;$=>*h]>NmTt$bZjh4p~%q4F&F@nmaH%r$I(&|w=O.<6SNCG_~8*=)&E8y+Y?fC)7qy],,y^xl!Qb:95:rD9rMDyweA&gFC$aJ5s&HDC]
W~9ltrc%vaW5Dq9UNzr:k[Y$1<<prV7D4a$>3|$4Un9lmJ~YF21UaZi|+)$,O1oP(l%w)T;SuHULk5)Z<EssiF|5y7#6lB,vT4C<MHdqs3ZJ$r
ngNuw.+u&J8PGgIsL<xD_3gwtMM8*zI[Hr>,qluzum#tER8VBvk?jW3&m)VRpLF5.%kNejb.eUDXn+79]AV$Y!hH|>EM=C%,LzaivT<Pm?>lAg
8n)Stl+cJlbHoGM~b5P8>eK(zAM[c%KlXdAXh2,<]4T($@HyW;vFg,vX#~a@USIJJ[O=!fYj4NA2?D2w,S<Qi_*NUj4]i8!Ls@($MuN5||jH69
<m*pm*y>>7!E*nB.:GLBc$%GAUdwwBY=uJX=F[@mQ#4n2!*96Pi4_PEjX?w^WFRsp60%a%jmtP!(&)d~^0::tkp$Y>|GnxE*Apb]Txrronnx_!
(<?UxuHLgn$0ueZQAKo=m[%Eo2t]<tyH,RRP>?Mbrp.7kynv!)d(EOv2LmUU?:+;ax2>KLVkkZJZ8OB_=|uL3X?o8BCF6SHNYn.zmU)e=i|>@1
]5Vfdq(3_JSVU3NcS[Eo;kscEa<Iko|lxrB0R|bk+sgW0t(6NBB632OCa(X@|iSO_(0ImuaZercY+aOa&ag3rXhw$Hl%oh6*tX<!ODakaHOqx?
Hw=Gl5Ib4bD^I^V(>;ZtDB96oFFS6),Xp?h:7$LHzv^mdc_i#t7wLtvAd:b=I_88Mm+b&J=YpbTX.e<zoY&e_p8qy#xPAtBV<B0loF]2Y134fe
;1^ZfWBXxD#QjKmSi>=8.u;yHDc_!%AscSLmx~o~t;ZRyl+:pmnam[O^%vx@BdG1:4g+&2yP~ogGF,^+7Jzr;?XII]y4|2<jdR)ASNv*kc!VL0
;<O=@l~&@p=pGPYORAgO+*!d;x[1Y2:FtokyI)c%nA?nAMG)=i.$]AoO&^qaeIXZG2;N>,L8oyc<n5wCQ;Kn)|DU!U:ntwd$B[K2~A?yi_P9)G
8|tUa5LLVbF&aV.A?#iV0CNq:F|pdMnIt_L?KncB]y[2zx$ROoGuPf3%4LIc&35gf<:X?F.h)PlOQm6^[;_L*YmlQ=.tn]wQX1TA(8_zX%Y#A&
thrv(G&>0_1xO.;@z^TY%1Cbti%4O*zZw@%iEUGgklqg<:WrU9GrsxP<.1)X>E~HK1=E9|k]ru[OW_o+C6a[)W#@U1,Rd9Qa$zCv)~tC2FoVJ6
H:,z!Ce7!vCEuwFf0[:D9RN~RcFf,b1VtX,ju|FgQJkLUz@Rs6]8h*PZpdCP<h5EhtOMfdwxEzUt$zT<8S:0l)p~3!DU7%8MST3QQrdo7yhfm:
74QXvg^eH?mL21,hI:MLcU_Fl)EeBka;#%!K=9<@DLEv&Cuk<QH:fTbh4puELSXGO:46(zCGznid<p~7QFMqH,iRZ&(iw]<ZNH__LL<MThe_v)
|fKmi7pJ4W]XVmr@qDO]!fHF$]sQsRrqAyq=bsBWE3oxqe+<WMu$aSzpJLzCoJ4JRyS:Ew__QVPkZ~XQ<zANlBHt=DQJA,x9zM>18ix^SQat]&
SZFW_#9DThLWwEhT9P@pwm@zC)4Fq1kk.bv9Wy1,55Lj4ue+Dzt,]^++xmB2Vs^gw>9%=RP(;b^CpH~NT<4PFU3Gc2sny310.h0j|8eVk#+at1
#][?i0ixpchN,K5m5t+b<](%NJ;2xB4:P7+!(zYfa6VPx8!g*4?+Zw!]$zU;btUmWg]lFiBaQPA^nB@bD!E_Qpb5<6SV^|3.qj[:Drr*scd[$5
<yK3*l0le<J5@4WTCH4I^!L@YH*OeSw1!bX<C|?y!bJ93=IS]^9=FlbTKIJ1h:902SEj5[P7&?h)BadJL*~Xn35G2Al!+qjlIi+E2CwZ?..m_K
p:Nycgqs4yp>;k||Wzb6X!JYy3:7$F=J:=M[a>*DYbB3*7GKR0W5nVz*NI&C.X[f6pKuYeh8TVw1q0Zi<axF,(A<FU?$>P@*r:A$NI+>@><cZ>
Di99e5oi+vI3&rYRF~o|ov|*~)(>ux8>js=b>qz@PUCJhO1Jt,&bnG0[+*[uJZ]$VX+EC&a2npeQ5:9nQLVre82I:eyf~MjuL)fn.l;]DPCtR<
o6j|+YUC9PdRf<81?*doD4d]F%(YMGb95]r|Y@cz#1p.%t)Y+gLGrExWECk3Q7m#<4v7U*[%7GKRt!eu<iT3kIgdAeQ,w~>tezki5dMX.xj=dx
ybla;^,|*g)P;*VY7dhs5<L6mYYGn_Y3*NM)eCRo>]mo=eMDc|9aqVkA=b4Qv#.N+*x=PqBol9l06nj<n+nasc9a!$VlA!iex5.O,AiDI0@ajV
5^6GcH_B![UQ[SZSPrfVf^@&O8hJ&k,kJljGSDpkUf52=LGr<TD[OkDENGmUh*Y2*!]I5p!4V|F%ED82z3>nx)5udPxrgAe!&5%1|GO[SliRAc
n4;yP(5MY<G3Nke5d)t:R0uKrC2![i!ii?oG(n!?ZbaN8TCMWj*8TcU~?CZx5DD6O#]T6%0_v_wyaJ:XN;m<7X(v7@o_UFSk9NM!Jx0arv!DUe
hpl;yazEqri6Je#y#?BO(5rTEtS.~,U(YIElcmYKg)*]Z^7|xL_$X_3NJ#]Ae@lai.00@n5kcE$PzB77PRMC^dId!$ZdR3oHK;pGN:DUCXdkdg
Hl;?f:VP0),Cx~+2iNw1+975&<&_U_91cs=+4vZ%98i;S]SWN_?(uRu0^kpeW$v1KUg.ltDNiVHh];(KIqycf^Lja@jGz0))1?w)+Q]0dFCLrP
_c2jzViur.Dj*5O^^Cxy+qt|c|U)uR4x@5q&*w6ip4b01@0WIrdSlM08ghJ+X&X%NME++Vmj#9@YLCLjISV_(xzt[YQ3vG|G~yM;%LA;nm@;&g
9.&qYydD>iTg2,kqh5kxIhZl7vYJ6b$,#,O:gVIESP3^|V=0(51D3Zo0~PW2qK]:oA1VBhgW>+EE&XuyIBdW:?H_X)PXQx(J@<w4.u,x_%Ms]h
!Noj&,3yl*Ut;^MsicSeNAXr4*iP98g?K#f=:)].nvOBTx00>%b#P=BgB!j%P[A$v8uM*xGy2|d&F%>1Y#sEIo1H@T]#c)X&%A9AZW3=6A7u3M
$%s<6Gw7mgK&<VKdxVwUp>K|W[9Vu%i(ouA>3]f]Bo<Dr4cA9hR@Vc_.9K,4pJta+wvC76Yjpofn!h#6__M45Cyu1=qv7UKrzn6@w:^;:r|w^Z
?jrRfUkJMlSvw$gx8p4gG<~OaOrUXI=iM5Ju+y:F]lKnQ%$bSnEYFECH?YyA:^G32[]fa:QLI@>m.;;n(?R.*754@*wa#mCng~1;LFZFQm,.VJ
|nXDBSmvQd+$@:&.xNyoQUQ?#Zw0=%%6ZAvh$qg.Eb]D:JYkYaxXkfPMFsU!oyN<5ZzgwZVPCpi]nx?D^V0P+qdBY&k@DuJ3lv4m&F,TDsf=4#
hDr.Q1G&f>]jQyW5%z2.f@3gj>7k53gGp;_+*yeo6w>rN60?c^%rv^iMt8r<!I=$IY8As*WKB5u4fCt$[&>^0INUb*(N5lM_~|lMx@]~V%l_S%
$t9;SDDby<&c!!ZUIHIpEUoYJ%4P_Fm2;A,1zn^M?Z0d>od1BG9@%TJ68(7KG3l@Lmf6P^kd1y*;P=(P<w9d.RK8;2osEx$!X@?s>g))Ld]$GX
gi|BNg&px[utP?Qf7|h5kWTxS(T=Av&x+<t*a_5Z.M)PnBm]dRH,gD4<jN46gD7JAEUe8!)3MVRC!y~LM#hb%4L2Qh,gt:EgdpV6IIEt^bZR~8
a8wyUCPepg6JZ)Q~PlupA8YMu<GUaPRB2eIA@fYAu$R;1emKHqroqAbXTtSq1.<kQ!jDITlTZGw6HZv[umM>e86wBE<~$IF3i3<S(qtID.RFwS
L1kpB]i~rqSg+97W#~c76R6aKZ+m6klawrduKE+IbO#S(ATsCMtSV**opH(myQ7o2]jRCr6+6K4Wy@o~dtgc(SS@HaNc5JhNilki.5*<R6z%[k
IN?,:LI:ByMUZ)XkLK>P*E~>Bt+=Tb8JJ]Ia_xfEdlJQ)x3Y^s^qg[A:UrNl>XyCjX|Ti,odzdN=<9hjN.N7n3.[3UZ|@oMjZtBSXkk+Mj,Phn
oeUz#phyd6!:S;(sUiLs?Zgd2&PVVYZMkppn!]TW^zcN8:$+K0Vwzv@McoF[K.gkJ,U^YkuTz7w(|x+D+1y!h6HmD]J=uMzrP.G+~BCAge@Gr)
=p1;Q%V*%zFq|.raBxN%nSqQE91u[@,gj6wJB+V+9FqEe(JU8AAjKH5!RN)hxnaRW!1DA9Aw9Ynajhc1~6S.MntIwKKW85JN!+MmhU278!Q$70
g#[)fU|B3DDRlx[>piOPWPEm(!UtE2WeENN]+yE[9_6|<NY5o]es0RZ%0(5i|]nWx<I<*w76ogZ&DbkxJJBiC_eknv4NV<ARnz%e_?3Z]m6mc*
w@71g_j;|>^]y,Q^_QJ#m5=Q;gsoKyLqALPZzjckH):0D!PXT|5$R6JkAe1X0aRhlHr[n(M39%3dWKIjL.PS!qs*vKH4h$dk4j&T>u6UNY<G!Y
O).a[9O8~,b3%)@dBZPx#5mW_rxC?pVmeNBr2Gx8)ojRdx$$PSwq;sOSTjDpFh<xS]tkZ:4A:o,I?Nr~hU38.9Mi$TuQp83Zj%1sy*%hz^j!8:
Su|vFnU|YhDp]@35,H|gj[8_vPT3NjX>YXuhV8N6vPeTuX5f#iGGjT9.@QR:Fk~t%_PCiPR3,~@A|iZ4jKGw3j?>qpi]0b4%^kZrm||Q+jw~*o
lx^mpfFkI8>n6A=ammI&2AmZR?c4vghZaMnTWRSo,)~8![aA*WgyphjkndHS38w;$opjuRe3idS6$yc(btQ:iv|!Jv4V+jP*nTJ]w6++r]|iv:
1~N(0YgXv!tW=E0;?bRAGKb+[vD[ZOr[pM%btU*T$&8Aq?2;]<<fQKr&+L!DT$Rv;!M[rg]Q?;PMo)UbGN%F[s+PO0At3J;4QM5CK%^(]&|a.%
#04w59jrR+KqI>%FcFNl_~FCXd#+kOc$$bpb?0WtBn[77F5.U@vuq~rYN9P),>%&>%*aLyOA0$AX<s#J*OVHjl.69Jk6=>p8A16a,;cCw7^Dd&
]2V>i4[(>Brr<Qvl^zb,,nQxVXO@?BHR[5[VW!DOLpS[luDQzs~Lwy[U7:aBTyM3$Y1#jae2*<t.9x&ZJ:5A.A<MjjzsPUOp5&C+@;2KGBz$R8
;pG<._vdxYUO6x<$X?fnlrH_*W5J2F#D=vQ~mWb#A||K*ZVk^~qR:N7q7qw=<W8v*zJ,_@dBBg3Nljwc4f4;]K6!@W79aB)Gdn+P?CJn?o1|_p
%W*6,&2E^aPyx!SlFO5q&ieHXec#(<:q&dan2@8c5ONltLto7.Mk(3ZG%MAU%l^d(Zm,rs<lPsN4h<3Q0~XX&wB8UbC!%v(p*.Q~Y5C0%mFZG9
c3M61lQBha|:1Z]OXY!CD7SO[%mQ_?v+xkd0maFw~Owje8|l,q?zLM+|4z:K&cx^;!Exb|o]Ihf9fe>f#rCY~^OHI34ATZg@qfh+5,OA.Z1jXj
BHR,&&WhP#Dq3WLA,S20;*v1P^s#qbCsCRCJ#De)$(Y1AM@?>uJyvS+lJXze|gt:3OX^V>R7SYEwc1RId)(zT|t1,p|Y5WvV!FqEwh!LVz]A:.
7~SPQGcs$I6gV)FbQ4P|c8aB9#.G2ls07+Wh$G)2%kgW#Eh$J#SP<w2&%%ryfoZ0j7TuE=gghhWJKzBB9:taelT<o=|Bo>VtS,ASRnvqi=lxa4
(?cqsD)WcOw8g(8i.dBYQcbh,%tpS.&XW=TKUbwa>7xv3mmI?V^EPMo*mnBb<2vez,HkxF;%drt4cudk5Goht#5f_J~[,QV~J_2klsTuPT;#5=
+X45v=.20FosgS~SARjNz#IPRrSfj%jO6e|u;2>8SICm7^*HbC)VV5RIe0N6thpVN<Y7i+;^VL+o!&kKqYE>08g.r9m_Vk7%3;Z%(&];!1v,~V
2F(RlLY9Y3Gibq^1Fk(DQzOi]JnR,>GbGS?Aw2;^9sc5b[Z]Ab#,N[vUVOj6RdberGt)_|OM;@BHUZjpvF2UHH>v]o&+sVp1C;*HREqsRQORG[
g[2y##D>dLL~wN?GA=6apzIg#AsZ1:t;8qULiWiTp0<Mn?V(x4)n_%h2L|vp^uD[b5>CM7?ffQ>_K$&Lm:]b1duGvKeP.U!u4$nxj[@i9o#Ut.
9Bsx@3je!vZBIgEYld~E_fb0x9BkrW<i&o!3ydO2hffh_1=.pEk9slFjIW?ycH]_dkkuc[iO&RX3|.YxM[IJpnD05ZXqJLX~CMswhc9,#]eIU>
=kM%(:7;QltZ@8[_[~A7#Z2PszrM:2M3q.b:c9Ap<]?bL6eMmaltD;;PKipdeW!f~lu;wb+9M.cEQE<R*YP@^U7a22#E0s$dwnGvy]aGOFJ1(D
Ard7euZHfRpQOdh&A=&H?[ngeTDXCWsdLuR076>W,TBze*&CZAy_R=^VODG9U%q=q0!dnP_^PY0fY3DriqVAh=JXEf|#Nwq(>)HFKL(UKims[o
=526qjUT%rwT037FqN~2$K<?=@UEZO+ob6oj(%sAem!aq:,]Pw~o~C9nGERdiM..>AMc4hhq[7U.7=]4T7b%@W33&Pkj.gIEC:]_*e~D+L(<*A
L=Ovcv)63YB?|obn9Pj*6v:#IL:bg!$]7@EL]ys4yRG~sr+]YwHcNzPme~PLO;E+:cfn@ATX6W&4DY!7Au&*AT<fuyPw,t#Ze%,eWaz[KZWt@c
T7|i&p82^jn(,HVX=(be7My53[J=Nu$CZ^4cuBRorg#!InfWa=#oB=_uq#IKw)ti?GVVC8Qm5tgatw=9Hsx|veWL|]N~xdVE$m&>dJS(&Q*Jch
R>,kK)?OVZTowQj.|wK:nu8zqnM[*iI;RfpjsK1AK|&,]bzc*BEr;4Z6T?Iy9Ip$dKVnKi(S2w7tu9&_t(3W4k[H5,F!Fn5l^B)$Gl|MQ)l<W*
Mgvc&s@icuZr6>lS&O|GjumgjfHOmCU;J.5<5|vt&K|O[%zA99=<|&~1:LEF>~Mk9K9oIYpf)[,6h4_8V57wcjFjwC[.1W[q^fiLBk8)9f_f*Q
!|SVQ%H=wl,[*w$&zxTcsdl.q2S)AM2mfT&@HMh*LTz%yGhvwMhLfa(BVh5jbIFqhO5I@A|(c0^Dl.lF:!7vveMrmaV3o.VLv]Z*t.7Wck.+r.
BuwGq5$)%2~q21X%q=7<y3iL,;rc65b%3]M5=qZXFu0>S@eO3[]JTY&3h3HI9,ND?Ei_]1xoEc=6YTSS^=30@6zqK.gxLh5sEvQ:&rH*Sk>&md
v1^C.o?Sjn2U2vpt48eNlsIr^c&>CQ]C)T,]*G9|lt+IUyvjxnNq2W3<O=dHCDdXHu]*8<F%Op;@7cdW=0p.*ga2[7S[yXRxd$mh<nTg~2]LWD
M%]3V~(G0ns6o[qJS>Av$*UBPhUhCdl[+M:tl7BSdUdU3w4RPD7n7ry%hgoFRi(@btg0Ag_vv;9[5z!#C8vs#UcrAlZ#)D%0L|$F$*#O46?Or3
fvx<??npQ6|Z3|cF5&:roR:,cjOXfeFrt:MHyC4ZA:$@D<s,m[[B5Mu>;>DBznXY7q~TQ!6qd6fv89Nju~]9n)ep9@&Ts^oE]N(Xd)X]cvsQ[#
,|#p[5|2hhz^8:2<xJ@?mEiPh#Fn~LuzzB7s$SS#+r&9r2zfV(RUqhdFRBV=IQL!su3@PB:.gXJMzQ5O#:90cEXwu:JJxT81E82^2uHqXD5tUI
02IdiPBDxVpJU4zkoU^4ZtLuuprc*gHN)z99!;XptI%q[=*Rmm2]JsKnYH|FGnqTIi=Z@,qix@Y(DZ1Z_k;Iq<vRSBpE4Raiq+~u39t#BfN&pj
Z?vQI^))F<*t;$wJ1As]#27X]F32+1@TDtklT(0VVv+B@x&lKlrz9p5Rs6uwqg8,Wit,jNB<bE47:ACC,$,U)@NBO2AYsqS:!b!9RLit#4r7=R
ig+Vz<,].m2z4qXwno&b_l()=+q<V@vL0qU@yrmq?7PCLQ#Spq&aAABr^w8^h;4mhdw|1#<wx>HM4c85RUSc2frMu.VmKgS>SiIdv@v?7fg[m)
n^Lzr[6*]r0H<EE5kdP8;8nC*eYn1f*Ho2|:j8Ne<p1_h:;:SE=$[XF_>^anr.Bt+wy?SrHF9k~5t(1WGYv,0*oRRWZ4dE+Rn3VCCEHQS4MwzI
5K+@GEdGU1AafJRvE8#fD%~Q%@K...~7^1<us:E4Ls30jT4i,kf6fa~Mfc!PX$^H3#are]ta_V_Mf8[<ws,7[H[rh|T<ONToFa$8e@I+&B93Yp
[ru8A,0L^ehd=g%|cbUN:U6%|AC?Kou?dVM_?bX.!AQ1NC<ARGF;mBlWh1Ge6RTWNz|0l%&i$=Jwy5Xg3z+.[5)4!K1w4+3e*Enw_J~7oEPA>2
)sl_i**lZ(*PV3xw%W>m51rf=axro7Q:h8#Rj~[?jM^X:NBM3Jqgd#2N[xlhs2H[$s?Yzh=[#Y?dwIw2DDACw7AzJLh1aSA9cQ&uN1uNqr|p_P
QuubDGm|=01(hyoa9lY!.@+r#.Q~eF&AFlTppe=6j:Vg^LlE.d~XHyg~xiXqCit*pp;TQHnu[D)~jMUtg~=X65Y1f_9JyJ:.AJexd@#o0URIA7
)q!=1E]Qo>1<4j;@$;!?|;r2*G<EO]>]CCp^*@[x.RS_:I=DU2K|pcexU7Pn~|h4.P(TLL*h73NV3dnE?_NXA|VSgpg;rs.eY2BJyt=,&S<!:+
1:EEvO[_NnPn@x7&_hc9$P=jWFL:9$^.1%01cw31$T)xEpCl]]w]F)_f;pH(3qw_ki._!k$?Vi%K_?RLe6K9yXz;.,zzSlu=bxJk0yIk3qt3!%
]O+Y.Z&0mgFBboig$pF&|=i=m1a(=gnjd[<syD;tOwZB$w8G?yfKzO|qnQlW$D]x$_uc&,.QbBbz2sy,s&k|M6REa@$vB8e!D<>0>p,J.q|H0$
8t@]5xl#%Fh@=QK0m6Du48zJx<d&(>qjX]d4PYgDYf]=G[Op|091[ip%yQVaL6ajFFZ+Qnw(.ZxrRZL+3FHBYGaeNL(NWz6,@^)5zL@gha|cxh
He|7hKb<(vs~7E4(4CeA(+.[w*p9AVn2]jPXkII_40(lU[L&DVLmw>o,zUmM#P7CA=^d%QaMxvw!QWx|h]+Ky5ms+GWZ!uM+Hm7^U|f^0eRD!L
c33=A?q1tw[(kJCpV*9fF|~jyA<&#w?EmJbX>LGL~H!N8u~K=AI:2xXU)TBo.hYz+eC%TL6Ga$fc2u1)^^HD;UX?hY0:aS)@u#]aLHu!,ns~!V
fJydnz*pS2gP_tK5B8V=XWWPv;.vYhf@lmk@Ch?^g.EW>)4fG~!wc=vXKMDhnOXQ)X]6vL*3<:)0$J+?UJjvgW*.1rrotVDV7z=]Ld[pHXs*Fw
KeKv|<a:2aV9||~T1KKSQSuSGeTt~7l6XVPg:=M:PIN01t<|;z3Hsc;lz1K7mLRE&>1f@;aGV$.>g$QWGa[~H[O#!([(;*tEi&R~7*MQSIlR*h
fcX<t=1i;2$bk|U.CObS%E>usmquH<R)co2XAgP*Id2Hy)v2T9yWpYa6v]0W%dA?aYBvUIW@2?2:h9bj7!~C66E,zyQ.=>mc<yJE>xxoyZ,qu?
#3W5*fR3_8$!8nf72vl#=|[|+eU(%ilsEGWqB<TN3]3#K%u>4m.tk&e)y2WLdNZlJVlBR.sOi)]4R8w5tM9_2QR#GK8,(a%_^>LVL(f:0(w2<#
8=5&>@Ho1Ig_)V5ph^PT6#^O]AJ+=?y0HFF6TC1]Rvj*~j1_6neETDe%VLJ%n[Yim<BU:Jgi^n~bB=Z,)2EHb>ZT+pueFUhRUm@l:n.+YTgu_%
i+O(T:ug;dm<:%Bba_&3Ytj?1BQk~5b9j~7O<.kTgn&dw&6C~JX*NZv8EsUq(#||Xi_*jfY9*v.Ka,[Lhh1hw:!aSo(wm1x5m$p<qhgE~K[t:!
@*I19q4U>NA4+8YeNPpor:XJiG$sq|*<[<D1QJC,0]b7#wCX73PIL!YWtvulT,P@+s@Fl$flewXUm5;(2#jVQLxGG%!V^e~q(:BJ9fwuLgmTrI
y2AN9#q>KB#ghgMOK8lE+Fo:NA?PF.LuZHp+|lnE#pK6n+XDLNjYH!|m)Yg;#BqocXv;4^q+5wQ5*3h5f,VK,?K4GIX_97e3~yc<:t#y]k7)&L
;t.>Th:hWlN%~DEsg]vUv;FY>hhibrf,|OTVqR:sUi5kK0eAx&PpCbRwDatXW+8OE3,i:j5ALQB3&H:j7Fpqwn7![oG=c]c=#HqUjj9S[inza]
ph88Sa;p*ZWP;A3h?&k@o6y$yQR>4$&5QjW=T+8htW?H71&I?gn+]:3:Mzk1$SBzVKFb.3AmKqq,dhI(|Wmx=tm4](B*2j4Sva@ICCgBc5<6pX
2pvMLt.A@IA>s^v;p$8n5PyHHFs5u6Y+=f1TLHrZaNf~cZ7sSaIs0x%?#*0yd7[r6YN*tWsx;U!4CI0D_ro[&[y7m#2+7pGT6&.~jO6iHaiPb<
DorGk2%(uo|2UNXIz(Cg*2Z6pv@imP@a(I+;zZK]tBrurL7:;m>ukNw.N(fNzY9>>rFV^|2[b0^9x?;wUy^GQ^|0:V1OVOyCuH_P|J[T.f9NP<
B=aeW5FPG[ml4H^A|Ov1]lA;U@i*<$8kV*cnsF&:N1;@Sm1oZOCQ?MhFx,dIXvSAB%x&SHHe|bPE!LwfQ)5+]*C=%!OPl0>~kN(Sa!PTuL7vxa
&_DJTTg!*HadjF(daa$w6uR$0p,64bq;g2F3gcnBs<gEXRY:~hhSy@DpW5D+$VhebsOKaLm[pS=cc,V5i~j+Ro+laQx#xoP@&26*juXiWu=kML
uAmqxJi!Yu8P(G.[Tk<d)Z$KHuJ8dzA4?f]Raas|f^;]W#6.%3j|MyR;^^Y=v.4E&QO.LCsAf@e<XEoBN=z?!Zbd_J21nCyFRzb)1pEZC_px;[
]pr>b6.^LQ12,zWGgKCra#p=7qJedVt+~L3#t.me2%5X.1.[|Her7Z_+MXIayY^I~fwq#m)6!znaUdm!W9^WDVZ*XBHPFn=PG6v_0_yh0=^uiu
lanPBICVw2$DxC[>58x(!+XFlg&^!ZVv%r@SVuGC.Q1!M])R0;X#96y0:AIfhC1i[YP[z2MmY>fUv;=wERCR+WMT?7vih.rlnApwu=~wUX]yn<
ZS=zTA@tS?brj2>>T$H>rL~HEn+)7RwjC;j69K4>>7&nU]Q(gah.7yXvrZ;u#wbZ7B^4p0]eV%GDRv#:vF8^vMCa(_<(jilzL&~07W|vB77H6(
*4~k;[lV^Gt*Ri$5gy_tdsb:5.+H+s9rSr.u+@Z6#j8]N[~UBhZ~a7.kq+kAe?$^6Ke6GZ=Gj0k)eV4Qa)5d!UmO!s,5+5.d#7CHaRqkb(JOPE
GivgHJpT>kSj6.]QS|_,deM6>sRv?$E8d!l@*J.AHChSoY;XObdV+%|tiJw:MnUMKYcQLji+iIs)$=u04,x+yzRo?+K,1ze+1:p8.sd%&?Lj9B
;_t+$JJTi4Q?.5hxxkIgBf)6vg:h]!lUKQi4zCBf%(XA2MTBvfBXbH*=:hZOg_~tj%2gUR5Ad|PDbHwve:>XZ8z<P3A2[:8.o,N&mOemb$gYJb
0JU|ikB|LP,mx!!wweh:MKvis:KMaET2U0b8qWsu:jx1TOmp$~jg1q~IE~VJwLS<1Md!T7~!_QmkrYj4;!aek3wkF@(m0Zf.Nw&Tn&u%~HpX*7
80y^0?5&68#P>fLqm#6MvFd0~HpF3rY5]R3><uvkECtKm)dk]wM,tMgx;P~A6]@l+)34<&s7>2)~YEFyW7E%pVbi!gaAsSvf%QU,]72,aQNJ&]
PK+eTcxK]<sagbXJCaEGk(1vr<8r^u.HvY*FBkMDVUD]%%x@QIWfNx7G,e|a7eZ*w1r1hc:iJtVL!|)tC,eh]<@BSHW5[m#>|I(E?12E&V|SmW
%8[L4;:p>,Q_7*~(b>VT&HC(iC4htaD[ase~1FZqBFG3@cA.nxL]vdIr2?kUU:]U?<:V7Z@;!$oD6oqAvWmt5)H?*i*qj9^6X~@5X>h@]*P9En
S5w5pR]AD!iy|@<KMN5;Mj*p0~0N_r|F.u:FvS[EZ*o+o6W=:nEw]%a;Xw,a%z4v4S^KT6)oQ+Ev8~?7I)zH.4v&QnotO!@9^FP<j)OKHC1:?r
jiWf=L~ga?^hi1U<2Ig)p$6Py43?#&g1hUC:+):i~$F7pcn@))+qhbd!ceo,>~#[Q>kU#%jNFRI.C:.TIV6>vJcfL#%6:)I|jNsaoc]#4;vjd5
@e%ZJ8nYh2?$[X_^~&Lxj2W)rhpE~HnKN+phY&d(aUQ.!|%43PIR!xk%_ZtxFaCgoW%OJkAAAOfVnl!BEDMY^Sk+vLqB>fn7Tcqbgf(sD!)Zz&
k|:|Hnd?ge@[0Tk|N9!0=w8tREUe&bS0lI1.O1nWS3aQwm1y~lcCz&UNI]Hc5pS#DEE$:Wx33im99vj=zrHRnABQGl7n3y!lT:(1N*sMQ?@wa8
bML?gOU8e0+Uk.<g=v~eHuOV6S8[T[WMeT,<8%NDWBfg,8hNZ)9yo]H*4JMnVd;D;awUAm$STf,(_J9kH1_$mF+zbfK1GDcF$Jp$#mWObTLs)X
7>vFfgIby3tfEDrP~&ZOsaPTHXw:Zy%58Qa^XpgGud2z>u1F+QOo|!bNR@B>SSaFv%5Ci~Wkn1<nrKK>zUU~G928d@w=|[mJ(8[e(TgJ~a.cWE
X+Py<>gWj9V71Xv1p=:9*5N#)svx+F4N7jw)rq0k8~"

namespace CharacterTable

/-- The lines of all tables. They are unpacked when the first one is needed. -/
def lines : Thunk (List (List Char)) := .mk fun _ => (Packed.unpack 44779 packedTables).splitOnP (· == '\n')

def line (t : CharacterTable) : List Char := lines.get.getD t.ctorIdx []

def entries (t : CharacterTable) : List (List Char) := t.line.splitOnP (· == ' ')

end CharacterTable

end TemplateCompiler.Text
